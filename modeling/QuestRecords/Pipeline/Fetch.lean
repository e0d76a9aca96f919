import QuestRecords.Diagnostics.Code
import QuestRecords.Files.Access
import QuestRecords.Quest.Naming

/-! Fetching the source of a class: why it fails, how large a source may be, and fetching it from
a checkout on disk. -/
namespace QuestRecords

/-- Why a source could not be fetched. -/
inductive FetchError where
  | network (location message : String)
  | httpStatus (location : String) (status : Nat)
  | timeout (location : String)
  | notFound (location : String)
  | tooLarge (size limit : Nat)
  | notUtf8 (location : String)
  | unreadable (location : String) (fault : FileFault)
  deriving DecidableEq

namespace FetchError

def code : FetchError → Code
  | network _ _ | unreadable _ _ => .networkError
  | httpStatus _ _ => .httpStatus
  | timeout _ => .timeout
  | notFound _ => .sourceNotFound
  | tooLarge _ _ => .sourceTooLarge
  | notUtf8 _ => .invalidEncoding

def message : FetchError → String
  | network location message => "Network error fetching " ++ location ++ ": " ++ message
  | httpStatus location status => "HTTP status " ++ toString status ++ " for " ++ location
  | timeout location => "Timed out fetching " ++ location
  | notFound location => "Source not found: " ++ location
  | tooLarge size limit =>
    "Source too large: " ++ toString size ++ " bytes (max: " ++ toString limit ++ ")"
  | notUtf8 location => "Source is not valid UTF-8: " ++ location
  | unreadable location fault => "I/O error reading " ++ location ++ ": " ++ fault.message

def isRecoverable (error : FetchError) : Bool := error.code.isRecoverable

end FetchError

/-- What fetching comes to; a fetcher may also break down without an answer. -/
inductive Fetched where
  | source (text : Text)
  | failed (error : FetchError)
  | brokeDown

/-- A way to fetch sources by class name; `location` tells where one comes from. -/
structure Fetcher (m : Type → Type) where
  location : String → String
  fetch : String → m Fetched

namespace Source

/-- The largest source that is accepted, in bytes, if nothing else is said. -/
def usualSizeLimit : Nat := 4 * 1024 * 1024

/-- Refuses a size above a limit. -/
def checkSize (size limit : Nat) : Except FetchError Unit :=
  if limit < size then .error (.tooLarge size limit) else .ok ()

/-- The text of a source, whose size is checked first. -/
def decode (location : String) (content : ByteArray) (limit : Nat) : Except FetchError Text :=
  match checkSize content.size limit with
  | .error error => .error error
  | .ok () =>
    match String.fromUTF8? content with
    | some text => .ok text.toList
    | none => .error (.notUtf8 location)

end Source

namespace LocalCheckout

/-- Where the source of a class lies in a checkout. -/
def path (root className : String) : String :=
  Path.join root (String.ofList (Naming.sourcePath className.toList))

/-- Reads the source of a class from a checkout. -/
def read [Monad m] (files : FileAccess m) (root : String) (limit : Nat) (className : String) :
    m (Except FetchError Text) := do
  let path := path root className
  match ← files.kind path with
  | .error .notFound | .ok .directory => return .error (.notFound path)
  | .error fault => return .error (.unreadable path fault)
  | .ok (.file size) =>
    match Source.checkSize size limit with
    | .error error => return .error error
    | .ok () =>
      match ← files.read path with
      | .error fault => return .error (.unreadable path fault)
      | .ok content => return Source.decode path content limit

/-- Fetches from a checkout. -/
def fetcher [Monad m] (files : FileAccess m) (root : String) (limit : Nat) : Fetcher m where
  location := path root
  fetch className := do
    match ← read files root limit className with
    | .ok text => return .source text
    | .error error => return .failed error

end LocalCheckout
end QuestRecords
