import QuestRecords.Diagnostics.Code
import QuestRecords.Files.Access
import QuestRecords.Json.Printer
import QuestRecords.Quest.Naming
import QuestRecords.Quest.RecordJson

/-! Writing documents into the output directory, which is made when it is needed. Each record has
its own file, named after its key. -/
namespace QuestRecords

/-- Why a document could not be written. That its text cannot be made is not among the reasons: a
document is made of objects with strings as keys, lists, strings, booleans and integers, and each of
these has a text. -/
inductive PersistError where
  | outputDirectory (path : String) (fault : FileFault)
  | writeFailed (path : String) (fault : FileFault)
  deriving DecidableEq

namespace PersistError

def code : PersistError → Code
  | outputDirectory _ _ => .outputDirectory
  | writeFailed _ _ => .writeFailed

def message : PersistError → String
  | outputDirectory path fault =>
    "Cannot create output directory " ++ path ++ ": " ++ fault.message
  | writeFailed path fault => "Failed to write " ++ path ++ ": " ++ fault.message

end PersistError

/-- A place for documents: where one of a file name goes, and a way to put its text there. -/
structure Output (m : Type → Type) where
  path : String → String
  put : String → Text → m (Except PersistError Unit)

namespace Output

/-- Makes sure that an output directory is there. -/
def ensureDirectory [Monad m] (files : FileAccess m) (directory : String) :
    m (Except PersistError Unit) := do
  match ← files.makeDirectories directory with
  | .ok () => return .ok ()
  | .error fault => return .error (.outputDirectory directory fault)

/-- The output into a directory. -/
def directory [Monad m] (files : FileAccess m) (directory : String) : Output m where
  path fileName := Path.join directory fileName
  put path text := do
    match ← ensureDirectory files directory with
    | .error error => return .error error
    | .ok () =>
      match ← files.write path (String.ofList text).toUTF8 with
      | .ok () => return .ok ()
      | .error fault => return .error (.writeFailed path fault)

/-- Where the record of a key goes. -/
def recordPath (output : Output m) (key : String) : String :=
  output.path (String.ofList (Naming.recordFile key.toList))

/-- Writes a document under a file name and returns its path. -/
def writeDocument [Monad m] (output : Output m) (fileName : String) (document : Json) :
    m (Except PersistError String) := do
  let path := output.path fileName
  match ← output.put path document.pretty with
  | .ok () => return .ok path
  | .error error => return .error error

/-- Writes the record of a key and returns its path. -/
def writeRecord [Monad m] (output : Output m) (key : String) (record : QuestRecord) :
    m (Except PersistError String) :=
  output.writeDocument (String.ofList (Naming.recordFile key.toList)) record.toJson

end Output
end QuestRecords
