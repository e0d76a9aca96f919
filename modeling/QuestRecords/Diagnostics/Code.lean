/-! Codes of log events and what is known about them. A code without an entry in the register is
still usable; it counts as a recoverable problem of medium severity. -/
namespace QuestRecords

inductive Severity where
  | critical
  | high
  | medium
  | low
  deriving DecidableEq

def Severity.label : Severity → String
  | critical => "Critical"
  | high => "High"
  | medium => "Medium"
  | low => "Low"

/-- The code of an event, by its written form. -/
structure Code where
  text : String
  deriving DecidableEq

namespace Code

def internalError : Code := ⟨"ERR001"⟩
def initializationFailure : Code := ⟨"ERR002"⟩
def invalidConfiguration : Code := ⟨"ERR003"⟩
def networkError : Code := ⟨"E101"⟩
def httpStatus : Code := ⟨"E102"⟩
def timeout : Code := ⟨"E103"⟩
def sourceNotFound : Code := ⟨"E104"⟩
def sourceTooLarge : Code := ⟨"E105"⟩
def invalidEncoding : Code := ⟨"E106"⟩
def memberNotFound : Code := ⟨"E201"⟩
def unresolvedReference : Code := ⟨"E202"⟩
def aliasCycle : Code := ⟨"E203"⟩
def unreadableLiteral : Code := ⟨"E204"⟩
def danglingStepReference : Code := ⟨"E205"⟩
def outputDirectory : Code := ⟨"E301"⟩
def writeFailed : Code := ⟨"E302"⟩
def serializationFailed : Code := ⟨"E303"⟩
def listUnreadable : Code := ⟨"E401"⟩
def listMalformed : Code := ⟨"E402"⟩
def listEmpty : Code := ⟨"E403"⟩
def loggingReady : Code := ⟨"I004"⟩
def sourceFetched : Code := ⟨"I010"⟩
def questExtracted : Code := ⟨"I020"⟩
def recordWritten : Code := ⟨"I030"⟩
def listLoaded : Code := ⟨"I040"⟩
def batchComplete : Code := ⟨"I050"⟩

/-- The code of a warning, an information or a debug message that has none of its own. -/
def plainWarning : Code := ⟨"W000"⟩

def plainInfo : Code := ⟨"I000"⟩

def plainDebug : Code := ⟨"D000"⟩

/-- What is known about a code. -/
structure Entry where
  code : Code
  category : String
  severity : Severity
  recoverable : Bool
  requiresHalt : Bool
  description : String
  action : String

/-- Every code of a problem. -/
def register : List Entry := [
  ⟨internalError, "System", .critical, false, true,
    "Critical internal error",
    "File a bug report with the failing quest source attached"⟩,
  ⟨initializationFailure, "System", .critical, false, true,
    "Logging or runtime initialization failed",
    "Check that the process is only initialized once"⟩,
  ⟨invalidConfiguration, "System", .critical, false, true,
    "Invalid configuration",
    "Fix the configuration file or QUEST_* environment variables"⟩,
  ⟨networkError, "Fetch", .high, true, false,
    "Network error while fetching quest source",
    "Check connectivity and the configured source base URL"⟩,
  ⟨httpStatus, "Fetch", .high, true, false,
    "Source server returned a non-success status",
    "Verify the quest name maps to an existing helper class"⟩,
  ⟨timeout, "Fetch", .high, true, false,
    "Source fetch timed out",
    "Raise the fetch timeout or retry the run"⟩,
  ⟨sourceNotFound, "Fetch", .high, true, false,
    "Quest source not found",
    "Verify the quest name maps to an existing helper class"⟩,
  ⟨sourceTooLarge, "Fetch", .medium, true, false,
    "Quest source exceeds the maximum accepted size",
    "Raise the source size limit if the file is legitimate"⟩,
  ⟨invalidEncoding, "Fetch", .medium, true, false,
    "Quest source is not valid UTF-8",
    "Check the source encoding"⟩,
  ⟨memberNotFound, "Extraction", .low, true, false,
    "Expected member not declared in source",
    "None required; the related fields use their defaults"⟩,
  ⟨unresolvedReference, "Extraction", .low, true, false,
    "Requirement reference could not be resolved to a display name",
    "Check the setupRequirements member for the variable's construction"⟩,
  ⟨aliasCycle, "Extraction", .medium, true, false,
    "Requirement alias chain forms a cycle",
    "Inspect the alias assignments in setupRequirements"⟩,
  ⟨unreadableLiteral, "Extraction", .low, true, false,
    "String literal could not be reconstructed",
    "Check for unterminated literals near the reported offset"⟩,
  ⟨danglingStepReference, "Extraction", .low, true, false,
    "Panel references a step with no recognized assignment",
    "None required; the step is omitted from the panel"⟩,
  ⟨outputDirectory, "Persistence", .high, true, false,
    "Output directory could not be created",
    "Check permissions on the output directory"⟩,
  ⟨writeFailed, "Persistence", .high, true, false,
    "Quest record could not be written",
    "Check disk space and permissions on the output directory"⟩,
  ⟨serializationFailed, "Persistence", .high, true, false,
    "Quest record could not be serialized",
    "File a bug report with the failing quest source attached"⟩,
  ⟨listUnreadable, "InputList", .critical, false, true,
    "Approved quest list could not be read",
    "Check the path passed to the scraper"⟩,
  ⟨listMalformed, "InputList", .critical, false, true,
    "Approved quest list is not a JSON object of booleans",
    "Fix the quest list file"⟩,
  ⟨listEmpty, "InputList", .low, true, false,
    "Approved quest list contains no approved entries",
    "Mark at least one quest as true"⟩]

def entry? (code : Code) : Option Entry := register.find? (·.code = code)

def severity (code : Code) : Severity := (code.entry?.map (·.severity)).getD .medium

def isRecoverable (code : Code) : Bool := (code.entry?.map (·.recoverable)).getD true

def requiresHalt (code : Code) : Bool := (code.entry?.map (·.requiresHalt)).getD false

/-- The description of a code that is not registered. -/
def unknownDescription : String := "Unknown error"

/-- The recommendation for a code that is not registered. -/
def noAction : String := "No specific action available"

def description (code : Code) : String := (code.entry?.map (·.description)).getD unknownDescription

def action (code : Code) : String := (code.entry?.map (·.action)).getD noAction

def category (code : Code) : String := (code.entry?.map (·.category)).getD "Unknown"

end Code
end QuestRecords
