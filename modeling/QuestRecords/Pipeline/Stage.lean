import QuestRecords.Json.Value

/-! The stages that the source of a quest passes through. -/
namespace QuestRecords

inductive Stage where
  | fetching
  | extracting
  | writing
  deriving DecidableEq

namespace Stage

def label : Stage → String
  | fetching => "fetching"
  | extracting => "extracting"
  | writing => "writing"

def ofLabel? (text : String) : Option Stage :=
  [fetching, extracting, writing].find? (·.label = text)

theorem ofLabel?_label (stage : Stage) : ofLabel? stage.label = some stage := by
  cases stage <;> decide

/-- Reads a stage: its label, or an object of the label alone with nothing as its value. -/
def ofJson? : Json → Option Stage
  | .string text => ofLabel? text
  | .object [(text, .null)] => ofLabel? text
  | _ => none

end Stage
end QuestRecords
