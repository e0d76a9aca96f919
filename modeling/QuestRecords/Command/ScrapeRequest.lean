import QuestRecords.Command.Word
import QuestRecords.Settings.Basic
import QuestRecords.Settings.File
import QuestRecords.Source.Token

/-! What the batch command is asked to do: the list to work through, where its settings and sources
come from, and the settings that the command line puts in place of others. -/
namespace QuestRecords

/-- The settings that a command line gives. -/
structure Overrides where
  outputDirectory : Option String := none
  /-- None at all asks for one thread a processor. -/
  threads : Option Nat := none
  baseUrl : Option String := none
  timeoutSeconds : Option Nat := none
  writesReport : Bool := false
  structured : Bool := false
  level : Option String := none
  deriving DecidableEq

namespace Overrides

/-- The number of threads: none at all stands for one a processor, up to the largest number. -/
def threadsOf (processors requested : Nat) : Nat :=
  if requested = 0 then min processors BatchSettings.threadLimit else requested

/-- Structured lines if they are asked for here or there, and else the log of the system. -/
def backendOf (structured : Bool) (backend : Backend) : Backend :=
  if structured || backend = .structured then .structured else .facade

/-- The threshold of a level's name. -/
def thresholdOf (threshold : Level) : Option String → Except SettingsError Level
  | none => .ok threshold
  | some level =>
    match Level.ofName? level.toList with
    | some threshold => .ok threshold
    | none => .error (.unknownLevel "log_level" level)

/-- The settings with those of the command line in place of their own. -/
def apply (overrides : Overrides) (processors : Nat) (settings : Settings) :
    Except SettingsError Settings := do
  let threshold ← thresholdOf settings.logging.threshold overrides.level
  return {
    logging := { settings.logging with
      threshold
      backend := backendOf overrides.structured settings.logging.backend }
    fetch := { settings.fetch with
      baseUrl := overrides.baseUrl.getD settings.fetch.baseUrl
      timeoutSeconds := overrides.timeoutSeconds.getD settings.fetch.timeoutSeconds }
    batch := {
      outputDirectory := overrides.outputDirectory.getD settings.batch.outputDirectory
      threads := (overrides.threads.map (threadsOf processors)).getD settings.batch.threads
      writesReport := overrides.writesReport || settings.batch.writesReport } }

end Overrides

structure ScrapeRequest where
  /-- The path of the list. -/
  list : Option String := none
  settingsFile : Option String := none
  /-- The checkout that sources are read from, in place of the network. -/
  checkout : Option String := none
  overrides : Overrides := {}
  deriving DecidableEq

namespace ScrapeRequest

/-- Why a command line asks for no batch. -/
inductive Ending where
  | help
  | version
  | refused
  deriving DecidableEq

def forms : List OptionForm := [
  ⟨"config", some 'c', true⟩, ⟨"output-dir", some 'o', true⟩, ⟨"threads", some 'j', true⟩,
  ⟨"base-url", none, true⟩, ⟨"local-root", none, true⟩, ⟨"timeout", none, true⟩,
  ⟨"report", none, false⟩, ⟨"structured", none, false⟩, ⟨"log-level", none, true⟩,
  ⟨"help", some 'h', false⟩, ⟨"version", some 'V', false⟩]

/-- The new value of an option that has none yet. -/
def once (old new : Option α) : Except Ending (Option α) :=
  match old, new with
  | none, some value => .ok (some value)
  | _, _ => .error .refused

/-- A flag that is not yet set is set. -/
def onceSet (old : Bool) : Except Ending Bool := if old then .error .refused else .ok true

def path? (value : String) : Option String := if value.isEmpty then none else some value

def natural? (value : String) : Option Nat := Source.unsigned? value.toList

/-- Takes an option with a value. -/
def takeValued (request : ScrapeRequest) (name value : String) : Except Ending ScrapeRequest := do
  let old := request.overrides
  match name with
  | "config" => return { request with settingsFile := ← once request.settingsFile (path? value) }
  | "local-root" => return { request with checkout := ← once request.checkout (path? value) }
  | "output-dir" =>
    let outputDirectory ← once old.outputDirectory (path? value)
    return { request with overrides := { old with outputDirectory } }
  | "threads" =>
    return { request with overrides := { old with threads := ← once old.threads (natural? value) } }
  | "base-url" =>
    return { request with overrides := { old with baseUrl := ← once old.baseUrl (some value) } }
  | "timeout" =>
    let timeoutSeconds ← once old.timeoutSeconds (natural? value)
    return { request with overrides := { old with timeoutSeconds } }
  | "log-level" =>
    return { request with overrides := { old with level := ← once old.level (some value) } }
  | _ => throw .refused

/-- Takes a flag. -/
def takeFlag (request : ScrapeRequest) (name : String) : Except Ending ScrapeRequest := do
  let old := request.overrides
  match name with
  | "report" =>
    return { request with overrides := { old with writesReport := ← onceSet old.writesReport } }
  | "structured" =>
    return { request with overrides := { old with structured := ← onceSet old.structured } }
  | "help" => throw .help
  | "version" => throw .version
  | _ => throw .refused

/-- Takes the next word of a command line. -/
def take (request : ScrapeRequest) : Word → Except Ending ScrapeRequest
  | .flag name => request.takeFlag name
  | .valued name value => request.takeValued name value
  | .operand text => do return { request with list := ← once request.list (path? text) }
  | .misplaced => .error .refused

/-- A whole request names a list, and sources come from one place only. -/
def isWhole (request : ScrapeRequest) : Bool :=
  request.list.isSome && !(request.checkout.isSome && request.overrides.baseUrl.isSome)

/-- Reads a command line. The first word that ends it decides how. -/
def ofArguments (arguments : List String) : Except Ending ScrapeRequest := do
  let request ← (Word.ofArguments forms none arguments).foldlM take {}
  if request.isWhole then return request else throw .refused

end ScrapeRequest
end QuestRecords
