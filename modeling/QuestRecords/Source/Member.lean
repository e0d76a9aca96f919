import QuestRecords.Text.Blank
import QuestRecords.Text.Site

/-! Bodies of members. A declaration is the member's name as a whole word, a return type before
it, a parameter list behind it, perhaps a `throws` clause, and an opening brace. The body runs to
the brace that closes this one; braces inside literals and comments count as well. -/
namespace QuestRecords.Source

open Text

/-- The body of a member between its braces, and where it stands in the source. -/
structure Member where
  name : Text
  start : Nat
  stop : Nat
  body : Text
  deriving DecidableEq

namespace Member

def isNameChar (c : Char) : Bool := c.isAlphanum || c == '_' || c == '$'

/-- Words that may stand before a call and are no return type. -/
def callKeywords : List Text :=
  ["return".toList, "new".toList, "throw".toList, "else".toList, "case".toList]

/-- Whether the text behind a name ends, blanks aside, in a return type: the end of type
arguments or of an array type, or a word that is not one of the keywords before calls. -/
def followsReturnType (behind : Text) : Bool :=
  match behind.dropWhile isBlank with
  | [] => false
  | c :: rest =>
    c == '>' || c == ']' ||
      (isNameChar c && !callKeywords.contains ((c :: rest).takeWhile isNameChar).reverse)

/-- Reads a parameter list up to the parenthesis that closes it; `depth` counts the parentheses
opened since the first. Braces and semicolons do not occur in one. -/
def afterParameters? (depth : Nat) : Text → Option Text
  | [] => none
  | c :: rest =>
    if c = '(' then afterParameters? (depth + 1) rest
    else if c = ')' then
      match depth with
      | 0 => some rest
      | depth + 1 => afterParameters? depth rest
    else if c = '\x7b' ∨ c = '\x7d' ∨ c = ';' then none
    else afterParameters? depth rest

def isClauseEnd (c : Char) : Bool := c == '\x7b' || c == ';'

/-- Skips a `throws` clause, if one is here. -/
def skipThrows (text : Text) : Text :=
  if (after? "throws".toList text).isSome then text.dropWhile (!isClauseEnd ·) else text

/-- From behind a name, the text behind the opening brace of the body. -/
def bodyStart? (afterName : Text) : Option Text :=
  match skipGaps afterName with
  | '(' :: parameters =>
    match (afterParameters? 0 parameters).map (skipThrows ∘ skipGaps) with
    | some ('\x7b' :: body) => some body
    | _ => none
  | _ => none

/-- The text up to the brace that closes the body; `depth` counts the braces opened since. -/
def closedBody? (depth : Nat) : Text → Option Text
  | [] => none
  | c :: rest =>
    if c = '\x7b' then (closedBody? (depth + 1) rest).map (c :: ·)
    else if c = '\x7d' then
      match depth with
      | 0 => some []
      | depth + 1 => (closedBody? depth rest).map (c :: ·)
    else (closedBody? depth rest).map (c :: ·)

/-- An occurrence of the name, and the text left behind it. -/
def occurrence? (name : Text) (site : Site) : Option ((Site × Text) × Text) :=
  (after? name site.ahead).map fun rest => ((site, rest), rest)

/-- Whether an occurrence of a name is a word of its own, behind a return type. -/
def isDeclared (site : Site) (afterName : Text) : Bool :=
  !site.behind.head?.any isNameChar && !afterName.head?.any isNameChar &&
    followsReturnType site.behind

/-- The body of the first declaration of a name; there is none if that declaration's body is not
closed, whatever follows it. -/
def locate? (source name : Text) : Option Member := do
  if name = [] then none
  let (site, body) ← (findDisjoint (occurrence? name) source).findSome? fun (site, afterName) =>
    if isDeclared site afterName then (bodyStart? afterName).map (site, ·) else none
  let text ← closedBody? 0 body
  let start := site.offsetAt body
  return { name, start, stop := start + width text, body := text }

end Member
end QuestRecords.Source
