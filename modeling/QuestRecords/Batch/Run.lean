import QuestRecords.Batch.Pool
import QuestRecords.Calendar
import QuestRecords.Settings.Basic

/-! Working through a batch: every quest of a list is attempted once, and none is kept from its turn
by the failure of another. The outcomes are told in the order of the list. -/
namespace QuestRecords

/-- Why a batch is not begun. -/
inductive BatchError where
  | threadCount (requested : Nat)
  deriving DecidableEq

namespace BatchError

def code (_ : BatchError) : Code := .invalidConfiguration

def message : BatchError → String
  | threadCount requested => "Invalid thread count: " ++ toString requested ++ " (allowed 1..=" ++
      toString BatchSettings.threadLimit ++ ")"

end BatchError

namespace Batch

/-- The file that the report on a batch is written to. -/
def reportFile : String := "_batch_report.json"

/-- No more threads than quests, and one at least. -/
def threadsFor (threads quests : Nat) : Nat := max 1 (min threads quests)

def startMessage (settings : BatchSettings) (quests : Nat) : Event :=
  .info "Starting batch" [("quests", toString quests),
    ("threads", toString (threadsFor settings.threads quests)),
    ("output_dir", settings.outputDirectory)]

def reportMessage : Except PersistError String → Event
  | .ok path => .info "Batch report written" [("path", path)]
  | .error error => .error error.code "Failed to write batch report" [("error", error.message)]

def doneMessage (results : BatchResults) : Event :=
  .success .batchComplete "Batch complete" [("attempted", toString results.attempted),
    ("written", toString results.doneCount), ("skipped", toString results.skippedCount)]

/-- Works through a list. -/
def run [Monad m] (workplace : Workplace m) (settings : BatchSettings) (names : List String) :
    m (Except BatchError BatchResults) := do
  if !BatchSettings.allowsThreads settings.threads then
    return .error (.threadCount settings.threads)
  let started ← workplace.now
  workplace.deliver none [startMessage settings names.length]
  let threads := threadsFor settings.threads names.length
  let outcomes ← if threads = 1 then attemptAll workplace names
    else Pool.attemptAll workplace names threads
  let results : BatchResults := { outcomes, threads }
  if settings.writesReport then
    let report := results.report (Calendar.toMillisecond started) ((← workplace.now) - started)
    let written ← workplace.output.writeDocument reportFile report
    workplace.deliver none [reportMessage written]
  workplace.deliver none [doneMessage results]
  return .ok results

end Batch
end QuestRecords
