import QuestRecords.Settings.Basic
import QuestRecords.Toml.Parser

/-! Settings files. A file is a TOML table of three sections; every section and every key may be
left out, and no others are allowed. A section may also be the array of its values in order. -/
namespace QuestRecords

/-- The values that a settings file gives. -/
structure SettingsFile where
  level : Option String := none
  structured : Option Bool := none
  baseUrl : Option String := none
  timeoutSeconds : Option Nat := none
  sizeLimit : Option Nat := none
  outputDirectory : Option String := none
  threads : Option Nat := none
  writesReport : Option Bool := none
  deriving DecidableEq

namespace SettingsFile

open Toml

def text? : Value → Option String
  | .string value => some (String.ofList value)
  | _ => none

def natural? : Value → Option Nat
  | .integer value => if 0 ≤ value then some value.toNat else none
  | _ => none

def truth? : Value → Option Bool
  | .boolean value => some value
  | _ => none

/-- The entries of a table whose keys are all among the given ones, by key. -/
def known? (keys : List String) (entries : Entries) : Option (List (Option Value)) :=
  if entries.all fun entry => keys.contains entry.1 then
    some (keys.map fun key => entries.lookup key)
  else none

/-- The values of a section by key: those of a table, or the items of an array in order. -/
def section? (keys : List String) : Option Value → Option (List (Option Value))
  | none => some (keys.map fun _ => none)
  | some (.table _ entries) => known? keys entries
  | some (.array items) => some ((List.range keys.length).map fun place => items[place]?)
  | some (.tables items) =>
    some ((List.range keys.length).map fun place => items[place]?.map (Value.table .header ·))
  | some _ => none

/-- Reads a value that may be left out. -/
def optional? (read : Value → Option α) : Option Value → Option (Option α)
  | none => some none
  | some value => (read value).map some

def logging? (file : SettingsFile) (value : Option Value) : Option SettingsFile := do
  match ← section? ["level", "structured"] value with
  | [level, structured] =>
    return { file with
      level := ← optional? text? level
      structured := ← optional? truth? structured }
  | _ => none

def fetch? (file : SettingsFile) (value : Option Value) : Option SettingsFile := do
  match ← section? ["base_url", "timeout_secs", "max_source_bytes"] value with
  | [baseUrl, timeout, limit] =>
    return { file with
      baseUrl := ← optional? text? baseUrl
      timeoutSeconds := ← optional? natural? timeout
      sizeLimit := ← optional? natural? limit }
  | _ => none

def batch? (file : SettingsFile) (value : Option Value) : Option SettingsFile := do
  match ← section? ["output_dir", "max_threads", "write_report"] value with
  | [directory, threads, report] =>
    return { file with
      outputDirectory := ← optional? text? directory
      threads := ← optional? natural? threads
      writesReport := ← optional? truth? report }
  | _ => none

/-- Reads the root table of a settings file. -/
def ofEntries? (entries : Entries) : Option SettingsFile := do
  match ← known? ["logging", "fetch", "batch"] entries with
  | [logging, fetch, batch] => batch? (← fetch? (← logging? {} logging) fetch) batch
  | _ => none

def parse? (text : Text) : Option SettingsFile := (Toml.parse? text).bind ofEntries?

end SettingsFile

namespace Settings

def ofStructured (structured : Bool) : Backend := if structured then .structured else .console

/-- The settings with the values of a file in place of their own. -/
def applyFile (settings : Settings) (file : SettingsFile) : Except SettingsError Settings := do
  let threshold ← match file.level with
    | none => pure settings.logging.threshold
    | some level =>
      match Level.ofName? level.toList with
      | some threshold => pure threshold
      | none => throw (.unknownLevel "logging.level" level)
  return {
    logging := { settings.logging with
      threshold
      backend := (file.structured.map ofStructured).getD settings.logging.backend }
    fetch := { settings.fetch with
      baseUrl := file.baseUrl.getD settings.fetch.baseUrl
      timeoutSeconds := file.timeoutSeconds.getD settings.fetch.timeoutSeconds
      sizeLimit := file.sizeLimit.getD settings.fetch.sizeLimit }
    batch := {
      outputDirectory := file.outputDirectory.getD settings.batch.outputDirectory
      threads := file.threads.getD settings.batch.threads
      writesReport := file.writesReport.getD settings.batch.writesReport } }

/-- The settings with the values of the file at a path, given what the path holds. -/
def applyText (settings : Settings) (path : String) : Except FileFault String →
    Except SettingsError Settings
  | .error fault => .error (.unreadable path fault)
  | .ok text =>
    match SettingsFile.parse? text.toList with
    | none => .error (.malformed path)
    | some file => settings.applyFile file

/-- Loads settings: those of the environment, and above them those of a file if one is named. -/
def load [Monad m] (files : FileAccess m) (environment : Settings) (path? : Option String) :
    m (Except SettingsError Settings) := do
  match path? with
  | none => return .ok environment
  | some path => return environment.applyText path (← files.readText path)

end Settings
end QuestRecords
