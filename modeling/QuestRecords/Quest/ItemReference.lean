import QuestRecords.Source.Assignment
import QuestRecords.Source.ListLiteral

/-! References to required items: the variables named in list literals and in `add` calls of a
body, by the place of the literal or call. -/
namespace QuestRecords.ItemReference

open Source Text

/-- An `add` call at a place: its offset and the identifiers among its arguments. -/
def addAt? (site : Site) : Option (Nat × List Text) := do
  let (args, _) ← parenthesised? (← methodCall? "add" site)
  return (site.offset, identifiersIn args)

/-- The identifiers of every literal and `add` call, by place; at one place the literal comes
first. -/
def groups (body : Text) : List (Nat × List Text) :=
  ((ListLiteral.findIn body).map (fun list => (list.start, list.identifiers)) ++
    findAll addAt? body).mergeSort fun left right => left.1 ≤ right.1

/-- The variables named in a body. -/
def extract (body : Text) : List String :=
  (groups body).flatMap fun group => group.2.map String.ofList

end QuestRecords.ItemReference
