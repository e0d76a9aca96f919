import QuestRecords.Diagnostics.Collector

/-! The journal of a run. It knows which quest is being worked on, names it in every event, and
collects errors and warnings for it. Events that pass its threshold are written. -/
namespace QuestRecords

/-- The quest being worked on: its name and its number in the list. -/
structure InputContext where
  name : String
  number : Nat
  deriving DecidableEq

structure Journal where
  threshold : Level := .debug
  /-- Whether events name the quest that they were raised for. -/
  namesInput : Bool := true
  input : Option InputContext := none
  collector : Collector := {}

namespace Journal

/-- The event as it is written: with a limited message, and naming its quest. -/
def prepare (journal : Journal) (event : Event) : Event :=
  let event := event.limited
  match journal.input with
  | some input =>
    if journal.namesInput then
      event.withDetails [("quest", input.name), ("input_id", toString input.number)]
    else event
  | none => event

/-- The event alone, if it passes the threshold. -/
def written (journal : Journal) (event : Event) : List Event :=
  if event.level.passes journal.threshold then [event] else []

/-- Collects an error or a warning for the quest being worked on. -/
def collect (journal : Journal) (event : Event) : Journal :=
  match journal.input with
  | some input =>
    if event.isError || event.isWarning then
      { journal with collector := journal.collector.record input.name event }
    else journal
  | none => journal

/-- Takes an event: the journal after it, and what is written. -/
def record (journal : Journal) (event : Event) : Journal × List Event :=
  let event := journal.prepare event
  (journal.collect event, journal.written event)

/-- Takes events in order. -/
def recordAll (journal : Journal) : List Event → Journal × List Event
  | [] => (journal, [])
  | event :: rest =>
    let (next, first) := journal.record event
    let (last, others) := recordAll next rest
    (last, first ++ others)

/-- Begins the work on a quest. -/
def enter (journal : Journal) (input : InputContext) : Journal :=
  { journal with
    collector := journal.collector.noteInput input.name input.number
    input := some input }

/-- Ends the work on a quest. -/
def leave (journal : Journal) : Journal := { journal with input := none }

/-- Takes the events of one quest. -/
def recordFor (journal : Journal) (input : InputContext) (events : List Event) :
    Journal × List Event :=
  let (last, written) := (journal.enter input).recordAll events
  (last.leave, written)

/-- Takes events: those of one quest if there is one, or such that belong to none. -/
def recordIn (journal : Journal) (input? : Option InputContext) (events : List Event) :
    Journal × List Event :=
  match input? with
  | some input => journal.recordFor input events
  | none => journal.recordAll events

end Journal
end QuestRecords
