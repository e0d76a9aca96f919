import QuestRecords.Source.Call
import QuestRecords.Source.Reader

/-! Assignments of a new object to a variable, `name = new Type(…)`, and method calls on a
variable. Blanks may stand between all their parts. -/
namespace QuestRecords.Source

open Text Reader

/-- Reads a name and the equals sign behind it. -/
def assigned? (site : Site) : Option (Text × Text) := do
  if !startsWord site then none
  let (name, rest) ← name? site.ahead
  return (name, skipBlanks (← spacedChar? '=' rest))

/-- Reads the word `new`, blanks, one of several type names and blanks, up to an opening
parenthesis; what is left starts there. -/
def newOfAny? (typeNames : List String) (text : Text) : Option Text := do
  let typeName ← skipBlanks1? (← word? "new" text)
  typeNames.findSome? fun name =>
    (word? name typeName).bind fun rest =>
      match skipBlanks rest with
      | '(' :: args => some ('(' :: args)
      | _ => none

/-- An assignment of a new object of one type at a place: the variable, and the text from the
opening parenthesis on. -/
def assignment? (typeName : String) (site : Site) : Option (Text × Text) := do
  let (name, rest) ← assigned? site
  return (name, ← newOfAny? [typeName] rest)

/-- A call of a method on a variable at a place; the text from the opening parenthesis on. -/
def methodCall? (method : String) (site : Site) : Option Text := do
  if !startsWord site then none
  let (_, rest) ← name? site.ahead
  let afterDot := skipBlanks (← spacedChar? '.' rest)
  match skipBlanks (← word? method afterDot) with
  | '(' :: args => some ('(' :: args)
  | _ => none

end QuestRecords.Source
