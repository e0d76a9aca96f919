import QuestRecords.Diagnostics.Code
import QuestRecords.Diagnostics.Level
import QuestRecords.Json.Printer
import QuestRecords.SortedTable

/-! Log events: what happened, how severe it is, under which code, and with which details. -/
namespace QuestRecords

/-- The details of an event, by name. -/
abbrev Details := SortedTable String

structure Event where
  level : Level
  code : Code
  message : String
  details : Details := ∅

namespace Event

/-- Adds details in the order given; a later one of the same name replaces an earlier one. -/
def withDetails (event : Event) (details : List (String × String)) : Event :=
  { event with details :=
      details.foldl (fun table (name, value) => table.insert name value) event.details }

def error (code : Code) (message : String) (details : List (String × String) := []) : Event :=
  withDetails { level := .error, code, message } details

def warning (code : Code) (message : String) (details : List (String × String) := []) : Event :=
  withDetails { level := .warning, code, message } details

def success (code : Code) (message : String) (details : List (String × String) := []) : Event :=
  withDetails { level := .info, code, message } details

def info (message : String) (details : List (String × String) := []) : Event :=
  success .plainInfo message details

def debug (message : String) (details : List (String × String) := []) : Event :=
  withDetails { level := .debug, code := .plainDebug, message } details

def isError (event : Event) : Bool := event.level == .error

def isWarning (event : Event) : Bool := event.level == .warning

/-- The longest message that is logged, in characters. -/
def messageLimit : Nat := 2048

/-- A message beyond the limit is cut there, and three dots show the cut. -/
def limited (event : Event) : Event :=
  if messageLimit < event.message.length then
    { event with message := String.ofList (event.message.toList.take messageLimit) ++ "..." }
  else event

/-- The event on one line: level, code, the quest if there is one, and the message. -/
def line (event : Event) : String :=
  let quest := match event.details.get? "quest" with
    | some name => " [" ++ name ++ "]"
    | none => ""
  "[" ++ event.level.label ++ "] " ++ event.code.text ++ quest ++ " - " ++ event.message

/-- The line, and below it what is known about the code and all details. -/
def paragraph (event : Event) : String :=
  let recoverable :=
    if event.isError then "\n  Recoverable: " ++ toString event.code.isRecoverable else ""
  let description := if event.code.description = Code.unknownDescription then ""
    else "\n  Description: " ++ event.code.description
  let action := if event.code.action = Code.noAction then ""
    else "\n  Recommended action: " ++ event.code.action
  let details := match event.details.entries with
    | [] => ""
    | entries => "\n  Context:" ++
      String.join (entries.map fun (name, value) => "\n    " ++ name ++ ": " ++ value)
  event.line ++ "\n  Category: " ++ event.code.category ++
    "\n  Severity: " ++ event.code.severity.label ++ recoverable ++ description ++ action ++ details

def detailsJson (event : Event) : Json :=
  .object (event.details.entries.map fun (name, value) => (name, .string value))

/-- The event as a structured record; errors carry what is known about their code. -/
def fields (event : Event) : List (String × Json) :=
  [("level", .string event.level.label), ("code", .string event.code.text),
    ("message", .string event.message), ("category", .string event.code.category),
    ("severity", .string event.code.severity.label)] ++
  (if event.isError then
    [("error_metadata", .object [("recoverable", .bool event.code.isRecoverable),
      ("requires_halt", .bool event.code.requiresHalt),
      ("description", .string event.code.description),
      ("recommended_action", .string event.code.action)])]
    else []) ++
  (if event.details.entries.isEmpty then [] else [("context", event.detailsJson)])

/-- The structured record on one line, with the time in seconds since 1970; a time before that
counts as 1970. -/
def structured (seconds : Int) (event : Event) : String :=
  String.ofList (Json.object (("timestamp", .ofNat seconds.toNat) :: event.fields)).compact

end Event
end QuestRecords
