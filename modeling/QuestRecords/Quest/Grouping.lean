import QuestRecords.Diagnostics.Logged
import QuestRecords.Source.Call
import QuestRecords.Source.ListLiteral
import QuestRecords.Source.Literal

/-! Groupings of steps under the title of a panel, by the names of the step variables. -/
namespace QuestRecords

structure Grouping where
  title : String
  references : List String
  deriving DecidableEq

namespace Grouping

open Source

/-- The variables of a list expression; any other expression names none. -/
def referencesOf (title : String) (expression : Text) : Logged (List String) := do
  match ListLiteral.parse? expression with
  | some names => return names.map String.ofList
  | none =>
    Logged.raise (.debug "Panel step list not recognised"
      [("panel", title), ("expression", String.ofList expression)])
    return []

/-- The grouping of a call; there is none without a readable title. -/
def ofCall (call : Call) : Logged (Option Grouping) := do
  match call.firstArgument?.bind Literal.ofArgument? with
  | none => return none
  | some title =>
    let title := String.ofList title
    match call.arguments[1]? with
    | none => return some { title, references := [] }
    | some expression => return some { title, references := ← referencesOf title expression }

/-- The groupings of a body in the order of the source. -/
def extract (body : Text) : Logged (List Grouping) := do
  return (← (constructorCalls body "PanelDetails".toList).mapM ofCall).filterMap id

end Grouping
end QuestRecords
