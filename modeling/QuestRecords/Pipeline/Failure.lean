import QuestRecords.Diagnostics.Event
import QuestRecords.Pipeline.Fetch
import QuestRecords.Pipeline.Output
import QuestRecords.Pipeline.Stage

/-! Why a quest is skipped. -/
namespace QuestRecords

/-- An error at one of the stages. -/
inductive PipelineError where
  | fetch (className : String) (error : FetchError)
  | extraction (message : String)
  | persist (key : String) (error : PersistError)
  deriving DecidableEq

namespace PipelineError

/-- The stage at which the error arises. -/
def stage : PipelineError → Stage
  | fetch _ _ => .fetching
  | extraction _ => .extracting
  | persist _ _ => .writing

def code : PipelineError → Code
  | fetch _ error => error.code
  | extraction _ => .internalError
  | persist _ error => error.code

def message : PipelineError → String
  | fetch className error => "Fetching " ++ className ++ " failed: " ++ error.message
  | extraction message => "Extraction aborted: " ++ message
  | persist key error => "Writing record " ++ key ++ " failed: " ++ error.message

end PipelineError

/-- How an attempt at a quest ends early: with an error, or because a fetcher broke down. -/
inductive Failure where
  | failed (error : PipelineError)
  | breakdown (stage : Stage)
  deriving DecidableEq

namespace Failure

def stage : Failure → Stage
  | failed error => error.stage
  | breakdown stage => stage

def code : Failure → Code
  | failed error => error.code
  | breakdown _ => .internalError

def message : Failure → String
  | failed error => error.message
  | breakdown stage => "panicked while " ++ stage.label

/-- The event that tells of the failure. -/
def event : Failure → Event
  | failed error => .error error.code "Skipping quest"
      [("stage", error.stage.label), ("error", error.message)]
  | breakdown stage => .error .internalError "Skipping quest after a panic"
      [("stage", stage.label)]

end Failure
end QuestRecords
