import QuestRecords.Pipeline.Failure
import QuestRecords.Quest.Assembly
import QuestRecords.Source.ClassName

/-! An attempt at one quest: its source is fetched, its record is extracted, and the record is
written. An attempt ends at the first stage that fails. -/
namespace QuestRecords

/-- A record made from a source, and what was left out of it. -/
structure ExtractedQuest where
  record : QuestRecord
  /-- The public class of the source, or the class name derived from the display name. -/
  className : String
  /-- The key under which the record is written. -/
  key : String
  missing : List QuestMember
  danglingSteps : Nat
  unresolvedItems : Nat

namespace ExtractedQuest

def derivedNameMessage (className : String) : Event :=
  .debug "No public class declaration; using derived class name" [("class", className)]

/-- The class of a source. -/
def classNameOf (displayName : String) (source : Text) : Logged String :=
  match Source.declaredClass? source with
  | some declared => return String.ofList declared
  | none => do
    let derived := String.ofList (Naming.className displayName.toList)
    Logged.raise (derivedNameMessage derived)
    return derived

def doneMessage (quest : ExtractedQuest) : Event :=
  .success .questExtracted "Quest extracted" [("class", quest.className), ("key", quest.key),
    ("panels", toString quest.record.panels.length),
    ("steps", toString quest.record.stepCount),
    ("item_requirements", toString quest.record.itemRequirements.length),
    ("dropped_steps", toString quest.danglingSteps),
    ("unresolved_items", toString quest.unresolvedItems)]

/-- The record of the quest of a display name, from its source. -/
def ofSource (displayName : String) (source : Text) : Logged ExtractedQuest := do
  let className ← classNameOf displayName source
  let extraction ← Extraction.ofSource source
  let assembly ← Assembly.ofExtraction displayName extraction
  let quest : ExtractedQuest := {
    record := assembly.record
    className
    key := String.ofList (Naming.key className.toList)
    missing := extraction.missing
    danglingSteps := assembly.danglingSteps.length
    unresolvedItems := assembly.unresolvedItems.length }
  Logged.raise quest.doneMessage
  return quest

end ExtractedQuest

/-- How far an attempt came: the stages it entered, what it ended with, and the events raised. A
finished attempt ends with the quest and the path of its record. -/
structure Attempt where
  stages : List Stage
  result : Except Failure (ExtractedQuest × String)
  events : List Event

/-- An attempt under way: the stages it has entered and the events raised so far. -/
structure Progress where
  stages : List Stage := []
  events : List Event := []

namespace Progress

/-- Goes on to a stage, which raises the events that `entering` gives. -/
def enter (progress : Progress) (entering : Stage → List Event) (stage : Stage) : Progress where
  stages := progress.stages ++ [stage]
  events := progress.events ++ entering stage

def raise (progress : Progress) (events : List Event) : Progress :=
  { progress with events := progress.events ++ events }

/-- The stage in progress. -/
def stage (progress : Progress) : Stage :=
  progress.stages.getLast?.getD .fetching

def ending (progress : Progress) (result : Except Failure (ExtractedQuest × String)) : Attempt where
  stages := progress.stages
  result := result
  events := progress.events

end Progress

namespace Attempt

def fetchingMessage (className location : String) : Event :=
  .debug "Fetching source" [("class", className), ("location", location)]

def fetchedMessage (location : String) (source : Text) : Event :=
  .success .sourceFetched "Source fetched"
    [("location", location), ("bytes", toString source.width)]

def writtenMessage (path : String) : Event :=
  .success .recordWritten "Record written" [("path", path)]

/-- The attempt on its first stage, behind the request for the source. -/
def begun (entering : Stage → List Event) (className location : String) : Progress :=
  (Progress.enter {} entering .fetching).raise [fetchingMessage className location]

/-- The attempt when its source was fetched and told the given events. -/
def extracting (begun : Progress) (entering : Stage → List Event) (location : String)
    (source : Text) (told : List Event) : Progress :=
  ((begun.raise [fetchedMessage location source]).enter entering .extracting).raise told

/-- The attempt after writing. -/
def ofWritten (quest : ExtractedQuest) (progress : Progress) :
    Except PersistError String → Attempt
  | .ok path => (progress.raise [writtenMessage path]).ending (.ok (quest, path))
  | .error error => progress.ending (.error (.failed (.persist quest.key error)))

/-- Attempts the quest of a display name. `entering` gives the events raised on entering a
stage. A fetcher that breaks down ends the attempt at the stage in progress. -/
def run [Monad m] (entering : Stage → List Event) (fetcher : Fetcher m) (output : Output m)
    (displayName : String) : m Attempt := do
  let className := String.ofList (Naming.className displayName.toList)
  let location := fetcher.location className
  let fetching := begun entering className location
  match ← fetcher.fetch className with
  | .brokeDown => return fetching.ending (.error (.breakdown fetching.stage))
  | .failed error => return fetching.ending (.error (.failed (.fetch className error)))
  | .source source =>
    let quest := ExtractedQuest.ofSource displayName source
    let extracted := extracting fetching entering location source quest.events
    return ofWritten quest.value (extracted.enter entering .writing)
      (← output.writeRecord quest.value.key quest.value.record)

end Attempt
end QuestRecords
