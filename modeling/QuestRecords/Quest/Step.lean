import QuestRecords.Diagnostics.Logged
import QuestRecords.Quest.Bindings
import QuestRecords.Quest.Record
import QuestRecords.Source.Assignment
import QuestRecords.Source.Literal
import QuestRecords.Source.Token

/-! Steps of a quest: variables to which a step with a place and a description is assigned. -/
namespace QuestRecords

/-- A step by the name of its variable. -/
structure Step where
  name : String
  description : String
  point : WorldPoint
  deriving DecidableEq

/-- Steps by name in the order of discovery; the first step of a name stays. -/
abbrev StepTable := Bindings Step

namespace StepTable

/-- Whether a step would be added by inserting it. -/
def accepts (steps : StepTable) (step : Step) : Bool := !steps.isBound step.name

/-- Adds a step, unless its name is bound. -/
def insertFirst (steps : StepTable) (step : Step) : StepTable :=
  Bindings.insertFirst steps step.name step

end StepTable

namespace Step

open Source Text

/-- The kinds of step, those that win a shared name first. -/
def kinds : List String := ["NpcStep", "ObjectStep"]

/-- A place from exactly three coordinates. -/
def point? (arguments : List Text) : Option WorldPoint := do
  let coordinates ← arguments.mapM fun argument =>
    (integer? argument).bind fun value => Amount.int? value.toInt
  match coordinates with
  | [x, y, plane] => some ⟨x, y, plane⟩
  | _ => none

/-- The place of a step and its description: the first place constructed in its call, and the
first literal behind that. -/
def content? (call : Text) : Option (WorldPoint × Text) := do
  let place ← findFirst? (Call.at? "WorldPoint".toList) call
  let point ← point? place.arguments
  let (_, rest) ← call.splitAt? place.stop
  let (description, _) ← Literal.chain? (rest.dropWhile (· != '"'))
  return (point, description)

/-- The assignment of a step of one kind at a place: its variable and its call. -/
def at? (kind : String) (site : Site) : Option (String × Call) := do
  let (name, paren) ← assignment? kind site
  return (String.ofList name, ← Call.ofParen? site paren)

/-- Adds the step of an assignment to a table, or tells that it could not be read. -/
def add (kind : String) (steps : StepTable) (assignment : String × Call) : Logged StepTable := do
  let (name, call) := assignment
  match content? call.text with
  | some (point, description) =>
    return steps.insertFirst { name, description := String.ofList description, point }
  | none =>
    Logged.raise (.debug "Skipping step without readable location or description"
      [("step", name), ("kind", kind)])
    return steps

/-- The steps of a whole source. -/
def extract (source : Text) : Logged StepTable :=
  kinds.foldlM (fun steps kind => (findAll (at? kind) source).foldlM (add kind) steps) ∅

end Step
end QuestRecords
