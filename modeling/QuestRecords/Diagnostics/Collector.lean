import QuestRecords.Diagnostics.Event
import QuestRecords.Total

/-! The events collected for each quest, and the report made from them. Of one quest only so many
events are kept; a single warning stands for all further ones. -/
namespace QuestRecords

structure Collector where
  /-- The events kept for a quest, in the order in which they were raised. -/
  events : SortedTable (List Event) := ∅
  /-- The numbers of the quests that have been taken up. -/
  inputs : SortedTable Nat := ∅

namespace Collector

/-- How many events are kept for one quest. -/
def eventLimit : Nat := 100

def limitWarning : Event :=
  .warning .plainWarning ("Too many events for quest (limit: " ++ toString eventLimit ++ ")")

/-- Keeps an event beside those that are kept already. -/
def keep (kept : List Event) (event : Event) : List Event :=
  if kept.length < eventLimit then kept ++ [event]
  else if kept.length = eventLimit then kept ++ [limitWarning]
  else kept

def record (collector : Collector) (quest : String) (event : Event) : Collector :=
  { collector with events := collector.events.alter quest fun kept => keep (kept.getD []) event }

/-- Notes that a quest has been taken up. -/
def noteInput (collector : Collector) (quest : String) (number : Nat) : Collector :=
  { collector with inputs := collector.inputs.insert quest number }

def eventsOf (collector : Collector) (quest : String) : List Event :=
  (collector.events.get? quest).getD []

def errorsOf (collector : Collector) (quest : String) : List Event :=
  (collector.eventsOf quest).filter Event.isError

/-- How many events are kept in all. -/
def size (collector : Collector) : Nat := total List.length collector.events.values

/-- Counts over all quests. A quest with errors is not counted among those with warnings. -/
structure Summary where
  inputs : Nat
  withErrors : Nat
  withWarnings : Nat
  errors : Nat
  warnings : Nat
  deriving DecidableEq

def errorCount (events : List Event) : Nat := events.countP Event.isError

def warningCount (events : List Event) : Nat := events.countP Event.isWarning

def summary (collector : Collector) : Summary :=
  let kept := collector.events.values
  { inputs := max collector.inputs.size collector.events.size
    withErrors := kept.countP fun events => 0 < errorCount events
    withWarnings := kept.countP fun events => errorCount events = 0 ∧ 0 < warningCount events
    errors := total errorCount kept
    warnings := total warningCount kept }

def detailLine (detail : String × String) : String := "  = " ++ detail.1 ++ ": " ++ detail.2 ++ "\n"

/-- The details of an event, one a line, without those that name its quest. -/
def detailLines (event : Event) : String :=
  match event.details.entries.filter fun detail => detail.1 ≠ "quest" ∧ detail.1 ≠ "input_id" with
  | [] => ""
  | details => "  |\n" ++ String.join (details.map detailLine)

def errorBlock (event : Event) : String :=
  let help := if event.code.action = Code.noAction then ""
    else "  = help: " ++ event.code.action ++ "\n"
  "error[" ++ event.code.text ++ "]: " ++ event.message ++ "\n" ++
    "  = severity: " ++ event.code.severity.label ++ ", category: " ++ event.code.category ++
    "\n" ++ detailLines event ++ help

def warningBlock (event : Event) : String :=
  "warning[" ++ event.code.text ++ "]: " ++ event.message ++ "\n" ++ detailLines event

/-- What the report shows for a quest: first its errors, then its warnings. -/
def section? (entry : String × List Event) : Option String :=
  let errors := entry.2.filter Event.isError
  let warnings := entry.2.filter Event.isWarning
  if errors.isEmpty ∧ warnings.isEmpty then none
  else some ("Extracting " ++ entry.1 ++ "...\n" ++ String.join (errors.map errorBlock) ++
    String.join (warnings.map warningBlock) ++ "\n")

def closingLine (summary : Summary) : String :=
  if summary.errors = 0 ∧ summary.warnings = 0 then "No errors or warnings collected"
  else toString summary.errors ++ " error(s), " ++ toString summary.warnings ++
    " warning(s) across " ++ toString (summary.withErrors + summary.withWarnings) ++ " quest(s)"

/-- The report on all quests, by name. -/
def report (collector : Collector) : String :=
  String.join (collector.events.entries.filterMap section?) ++ closingLine collector.summary

end Collector
end QuestRecords
