import QuestRecords.Diagnostics.Collector
import QuestRecords.Diagnostics.Window
import QuestRecords.Pipeline.Fetch

/-! The settings of a run: how it logs, where sources come from, and how the batch is worked
through. -/
namespace QuestRecords

/-- Where log events go: as plain lines, as one JSON object a line, or to the log of the system
with a time on each line. -/
inductive Backend where
  | console
  | structured
  | facade
  deriving DecidableEq

namespace Backend

def label : Backend → String
  | console => "console"
  | structured => "structured"
  | facade => "facade"

def title : Backend → String
  | console => "Console"
  | structured => "Structured"
  | facade => "Facade"

end Backend

structure LoggingSettings where
  threshold : Level := .info
  backend : Backend := .console
  /-- Whether events name the quest that they were raised for. -/
  namesInput : Bool := true
  deriving DecidableEq

namespace LoggingSettings

def thresholdTitle : Level → String
  | .error => "Error"
  | .warning => "Warning"
  | .info => "Info"
  | .debug => "Debug"

/-- The limits and settings that events are logged with. -/
def summary (settings : LoggingSettings) : String :=
  "Logging Configuration:\n- Log buffer size: " ++ toString EventWindow.usualCapacity ++
    "\n- Max events per input: " ++ toString Collector.eventLimit ++
    "\n- Max message length: " ++ toString Event.messageLimit ++
    "\n- Min log level: " ++ thresholdTitle settings.threshold ++
    "\n- Backend: " ++ settings.backend.title ++
    "\n- Include input context: " ++ toString settings.namesInput

/-- The limits fit together: there is room for the events of one quest. -/
def limitsFit : Bool :=
  100 ≤ EventWindow.usualCapacity && Collector.eventLimit ≤ EventWindow.usualCapacity

end LoggingSettings

structure FetchSettings where
  baseUrl : String := "https://raw.githubusercontent.com/Zoinkwiz/quest-helper/master/src/main/java/com/questhelper/helpers/quests"
  timeoutSeconds : Nat := 30
  userAgent : String := "quest-scraper/0.1.0"
  sizeLimit : Nat := Source.usualSizeLimit
  deriving DecidableEq

/-- A name that may be sent with a request: it holds no control character but the tab. -/
def FetchSettings.isUsableAgent (userAgent : String) : Bool :=
  userAgent.toList.all fun c => c == '\t' || (0x20 ≤ c.toNat && c.toNat != 0x7F)

structure BatchSettings where
  outputDirectory : String := "quests"
  threads : Nat := 1
  writesReport : Bool := false
  deriving DecidableEq

namespace BatchSettings

/-- The largest number of threads. -/
def threadLimit : Nat := 32

def allowsThreads (threads : Nat) : Bool := 0 < threads && threads ≤ threadLimit

end BatchSettings

structure Settings where
  logging : LoggingSettings := {}
  fetch : FetchSettings := {}
  batch : BatchSettings := {}
  deriving DecidableEq

/-- Why settings are refused. -/
inductive SettingsError where
  | unreadable (path : String) (fault : FileFault)
  /-- The file is no settings file. -/
  | malformed (path : String)
  | invalidValue (key reason : String)
  deriving DecidableEq

namespace SettingsError

def code (_ : SettingsError) : Code := .invalidConfiguration

def message : SettingsError → String
  | unreadable path fault => "Cannot read config file '" ++ path ++ "': " ++ fault.message
  | malformed path => "Invalid config file '" ++ path ++ "': no table of known settings"
  | invalidValue key reason =>
    "Invalid configuration value for '" ++ key ++ "': " ++ reason

def unknownLevel (key level : String) : SettingsError :=
  invalidValue key ("unknown level '" ++ level ++ "'")

end SettingsError

namespace Settings

/-- Checks the values that a run would only stumble over later. -/
def validate (settings : Settings) : Except SettingsError Unit :=
  if Text.trim settings.fetch.baseUrl.toList = [] then
    .error (.invalidValue "fetch.base_url" "must not be empty")
  else if settings.fetch.timeoutSeconds = 0 then
    .error (.invalidValue "fetch.timeout_secs" "must be greater than zero")
  else if settings.fetch.sizeLimit = 0 then
    .error (.invalidValue "fetch.max_source_bytes" "must be greater than zero")
  else if !BatchSettings.allowsThreads settings.batch.threads then
    .error (.invalidValue "batch.max_threads"
      (toString settings.batch.threads ++ " is outside 1..=" ++ toString BatchSettings.threadLimit))
  else .ok ()

end Settings
end QuestRecords
