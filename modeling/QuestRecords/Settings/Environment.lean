import QuestRecords.Settings.Basic
import QuestRecords.Source.Token

/-! Settings from environment variables. A variable that is not set, or whose value cannot be
read, leaves the compiled value. -/
namespace QuestRecords

/-- The value of each variable that is set. -/
abbrev Environment := String → Option String

namespace Environment

/-- The variable that a filter for the log of the system is taken from. -/
def filterName : String := "RUST_LOG"

/-- The variables that are read. -/
def names : List String := ["QUEST_LOG_LEVEL", "QUEST_STRUCTURED_LOGS", "QUEST_SOURCE_BASE_URL",
  "QUEST_FETCH_TIMEOUT_SECS", "QUEST_OUTPUT_DIR", "QUEST_MAX_THREADS", filterName]

/-- A number without minus sign; blanks around it do not count. -/
def unsigned? (value : String) : Option Nat := Source.unsigned? (Text.trim value.toList)

def truth? (value : String) : Option Bool :=
  let word := Text.trim value.toList
  if word = "true".toList then some true
  else if word = "false".toList then some false
  else none

def logging (environment : Environment) : LoggingSettings :=
  { threshold := ((environment "QUEST_LOG_LEVEL").bind (Level.ofName? ·.toList)).getD .info
    backend := if ((environment "QUEST_STRUCTURED_LOGS").bind truth?).getD false then .structured
      else .console }

def fetch (environment : Environment) : FetchSettings :=
  let usual : FetchSettings := {}
  { baseUrl := (environment "QUEST_SOURCE_BASE_URL").getD usual.baseUrl
    timeoutSeconds :=
      ((environment "QUEST_FETCH_TIMEOUT_SECS").bind unsigned?).getD usual.timeoutSeconds }

def batch (environment : Environment) : BatchSettings :=
  let usual : BatchSettings := {}
  { outputDirectory := (environment "QUEST_OUTPUT_DIR").getD usual.outputDirectory
    threads := ((environment "QUEST_MAX_THREADS").bind unsigned?).getD usual.threads }

/-- The settings that an environment asks for. -/
def settings (environment : Environment) : Settings :=
  { logging := environment.logging, fetch := environment.fetch, batch := environment.batch }

end Environment
end QuestRecords
