import QuestRecords.Calendar
import QuestRecords.Diagnostics.Filter
import QuestRecords.Diagnostics.Journal
import QuestRecords.Pipeline.Fetch
import QuestRecords.Settings.Environment

/-! What a command has of the world around it, and the session in which it works: it prints, and
keeps a journal of the events that it raises. -/
namespace QuestRecords

/-- Where a command prints to. -/
inductive Stream where
  | output
  | errors
  deriving DecidableEq

/-- What a command has of the world around it. The time is in milliseconds since the beginning of
1970, and a text is printed on a line of its own. -/
structure Host (m : Type → Type) where
  files : FileAccess m
  environment : Environment
  processors : Nat
  now : m Nat
  print : Stream → String → m Unit
  /-- Asks the network for what lies at a location. -/
  download : FetchSettings → String → m Fetched

namespace Backend

/-- The name under which events are known to the log of the system. -/
def target : String := "quest_compiler"

/-- A label with blanks behind it, up to the width of the longest. -/
def padded (label : String) : String :=
  label ++ String.ofList (List.replicate (5 - label.length) ' ')

/-- Each line of a text but the first is moved in by four blanks. -/
def indented (text : String) : String := text.replace "\n" "\n    "

/-- The details of an event in brackets. -/
def bracketed (event : Event) : String :=
  match event.details.entries with
  | [] => ""
  | entries =>
    " (" ++ String.intercalate " " (entries.map fun (name, value) => name ++ "=" ++ value) ++ ")"

/-- What the log of the system keeps of an event. -/
def record (event : Event) : String := event.code.text ++ " " ++ event.message ++ bracketed event

/-- How an event is printed at a time, and where. Plain lines keep errors and warnings apart from
the output, structured ones only errors; the log of the system has all events. -/
def line (backend : Backend) (milliseconds : Nat) (event : Event) : Stream × String :=
  match backend with
  | console => (if event.isError || event.isWarning then .errors else .output, event.line)
  | structured =>
    (if event.isError then .errors else .output, event.structured (milliseconds / 1000 : Nat))
  | facade => (.errors, "[" ++ Calendar.toSecond milliseconds ++ " " ++ padded event.level.label ++
      " " ++ target ++ "] " ++ indented (record event))

end Backend

/-- Where events are printed. Only the log of the system has a filter. -/
structure Outlet where
  backend : Backend
  filter : Option RecordFilter := none

namespace Outlet

def shows (outlet : Outlet) (event : Event) : Bool :=
  outlet.filter.all (·.shows Backend.target event.level (Backend.record event))

/-- The filter that an environment asks for, or one of the level in the settings; with it, what is
wrong with the filter. -/
def filterOf (environment : Environment) (settings : LoggingSettings) :
    RecordFilter × List FilterFault :=
  match environment Environment.filterName with
  | some text => RecordFilter.ofText text
  | none => (.upTo settings.threshold, [])

/-- The outlet that settings ask for in an environment, and what is wrong with its filter. -/
def ofSettings (environment : Environment) (settings : LoggingSettings) :
    Outlet × List FilterFault :=
  match settings.backend with
  | .facade =>
    let (filter, faults) := filterOf environment settings
    (⟨.facade, some filter⟩, faults)
  | backend => (⟨backend, none⟩, [])

end Outlet

/-- A command at work keeps a journal. -/
abbrev Session (m : Type → Type) := StateT Journal m

/-- The journal that logging settings ask for. -/
def LoggingSettings.journal (settings : LoggingSettings) : Journal :=
  { threshold := settings.threshold, namesInput := settings.namesInput }

namespace Session

variable {m : Type → Type} [Monad m]

def print (host : Host m) (stream : Stream) (text : String) : Session m Unit :=
  liftM (host.print stream text)

/-- Prints those of the events that an outlet shows. -/
def printEvents (host : Host m) (outlet : Outlet) (events : List Event) : Session m Unit :=
  events.forM fun event => do
    if outlet.shows event then
      let (stream, text) := outlet.backend.line (← liftM host.now) event
      print host stream text

/-- Enters events into the journal and prints those that pass its threshold. -/
def deliver (host : Host m) (outlet : Outlet) (input? : Option InputContext)
    (events : List Event) : Session m Unit := do
  let (journal, written) := (← get).recordIn input? events
  set journal
  printEvents host outlet written

/-- Prints an event that is entered nowhere. -/
def announce (host : Host m) (outlet : Outlet) (event : Event) : Session m Unit := do
  printEvents host outlet ((← get).written event)

/-- Prints what has been collected. -/
def report (host : Host m) : Session m Unit := do
  print host .errors (← get).collector.report

/-- Tells that the journal is open. -/
def readyMessage : Event := .success .loggingReady "Global logging system initialized"

end Session

/-- The access to files from within a session. -/
def FileAccess.inSession {m : Type → Type} [Monad m] (files : FileAccess m) :
    FileAccess (Session m) where
  kind path := liftM (files.kind path)
  read path := liftM (files.read path)
  list path := liftM (files.list path)
  makeDirectories path := liftM (files.makeDirectories path)
  write path content := liftM (files.write path content)

end QuestRecords
