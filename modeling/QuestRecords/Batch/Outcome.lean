import QuestRecords.Pipeline.Attempt

/-! What becomes of each quest of a batch, and the report on all of them. -/
namespace QuestRecords

/-- The end of one quest: its record was written, or it was skipped. -/
inductive Ending where
  | done (key path : String)
  | skipped (stage : Stage) (code : Code) (message : String)
  deriving DecidableEq

/-- A quest by its number in the list and its name, and how it ended. -/
structure Outcome where
  number : Nat
  name : String
  ending : Ending
  deriving DecidableEq

namespace Outcome

def ofResult (number : Nat) (name : String) : Except Failure (ExtractedQuest × String) → Outcome
  | .ok (quest, path) => ⟨number, name, .done quest.key path⟩
  | .error failure => ⟨number, name, .skipped failure.stage failure.code failure.message⟩

def isDone (outcome : Outcome) : Bool :=
  match outcome.ending with
  | .done _ _ => true
  | .skipped _ _ _ => false

/-- Why a quest was skipped. -/
def error (outcome : Outcome) : String :=
  match outcome.ending with
  | .done _ _ => ""
  | .skipped _ _ message => message

def endingJson : Ending → List (String × Json)
  | .done key path =>
    [("state", .string "done"), ("key", .string key), ("output_path", .string path)]
  | .skipped stage code message =>
    [("state", .string "skipped"), ("stage", .string stage.label),
      ("error_code", .string code.text), ("error", .string message)]

def toJson (outcome : Outcome) : Json :=
  .object ([("input_id", .ofNat outcome.number), ("name", .string outcome.name)] ++
    endingJson outcome.ending)

end Outcome

/-- The outcomes of a batch in the order of its list, and the number of threads it was given. -/
structure BatchResults where
  outcomes : List Outcome
  threads : Nat
  deriving DecidableEq

namespace BatchResults

def attempted (results : BatchResults) : Nat := results.outcomes.length

def skipped (results : BatchResults) : List Outcome := results.outcomes.filter (!·.isDone)

def doneCount (results : BatchResults) : Nat := results.outcomes.countP Outcome.isDone

def skippedCount (results : BatchResults) : Nat := results.attempted - results.doneCount

/-- One line on the whole batch, which took so many seconds. -/
def summary (results : BatchResults) (seconds : String) : String :=
  "Batch complete: " ++ toString results.attempted ++ " quests attempted, " ++
    toString results.doneCount ++ " written, " ++ toString results.skippedCount ++ " skipped, " ++
    seconds ++ "s total"

/-- The report on a batch that started at some time and took so many milliseconds. -/
def report (results : BatchResults) (startedAt : String) (milliseconds : Nat) : Json :=
  .object [("startedAt", .string startedAt), ("durationMs", .ofNat milliseconds),
    ("threads", .ofNat results.threads), ("attempted", .ofNat results.attempted),
    ("written", .ofNat results.doneCount), ("skipped", .ofNat results.skippedCount),
    ("outcomes", .array (results.outcomes.map Outcome.toJson))]

end BatchResults
end QuestRecords
