import QuestRecords.Source.Argument
import QuestRecords.Source.Token
import QuestRecords.Text.Site

/-! List expressions: a call of one of three list-building functions. Of their arguments only
bare identifiers are kept. -/
namespace QuestRecords.Source

open Text

/-- The arguments that are bare identifiers. -/
def identifiersIn (args : Text) : List Text := (splitArguments args).filter isIdentifier

namespace ListLiteral

/-- The functions that build a list of their arguments. -/
def builders : List Text :=
  ["Arrays.asList".toList, "List.of".toList, "Collections.singletonList".toList]

/-- The arguments of a text that is one call of a builder and nothing else; the outer option
tells whether the text starts like such a call. -/
def argumentsOf? (builder expression : Text) : Option (Option Text) := do
  let rest ← after? builder expression
  match trimStart rest with
  | '(' :: inside =>
    match parenthesised? ('(' :: inside) with
    | some (args, after) => return if (trim after).isEmpty then some args else none
    | none => return none
  | _ => none

/-- The identifiers of an expression that is exactly one list literal. -/
def parse? (expression : Text) : Option (List Text) :=
  ((builders.findSome? (argumentsOf? · (trim expression))).join).map identifiersIn

/-- A character that joins a builder's name to a longer name before it. -/
def continuesName (c : Char) : Bool := c.isAlphanum || c == '_'

end ListLiteral

/-- A list literal inside a larger text. -/
structure ListLiteral where
  start : Nat
  identifiers : List Text
  deriving DecidableEq

namespace ListLiteral

/-- The list literal of one builder at a place. -/
def at? (builder : Text) (site : Site) : Option ListLiteral := do
  let rest ← after? builder site.ahead
  if site.behind.head?.any continuesName then none
  let (args, _) ← parenthesised? (skipGaps rest)
  return ⟨site.offset, identifiersIn args⟩

/-- Every list literal of a text by its place; literals at one place keep the order of the
builders. -/
def findIn (text : Text) : List ListLiteral :=
  (builders.flatMap fun builder => findAll (at? builder) text).mergeSort
    fun left right => left.start ≤ right.start

end ListLiteral
end QuestRecords.Source
