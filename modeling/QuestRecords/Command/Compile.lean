import QuestRecords.Command.Host
import QuestRecords.Pipeline.Attempt

/-! The offline command. It makes records from sources on disk, one source or all below a
directory, and prints them or writes them to a directory. -/
namespace QuestRecords.Compile

variable {m : Type → Type} [Monad m]

structure Options where
  /-- Where records are written; without it they are printed. -/
  outputDirectory : Option String := none
  /-- The display name of a single source. -/
  name : Option String := none
  /-- Whether directories below the given one are searched. -/
  recursive : Bool := true
  deriving DecidableEq

namespace Options

/-- Sets an option that has a value. -/
def set (options : Options) (option value : String) : Options :=
  if option = "--out" then { options with outputDirectory := some value }
  else { options with name := some value }

/-- Reads the options of a command line from left to right, and what there is to warn of. -/
def read (options : Options) : List String → Options × List String
  | [] => (options, [])
  | "--no-recursive" :: rest => read { options with recursive := false } rest
  | option :: rest =>
    if option = "--out" ∨ option = "--name" then
      match rest with
      | [] => (options, ["Warning: " ++ option ++ " requires a value"])
      | value :: others => read (options.set option value) others
    else
      let (later, warnings) := read options rest
      (later, ("Warning: Unknown option '" ++ option ++ "'") :: warnings)

end Options

/-- Why a source gives no record. -/
inductive SourceError where
  | unreadable (fault : FileFault)
  | refused (error : FetchError)
  | unwritten (error : PipelineError)
  deriving DecidableEq

def SourceError.message : SourceError → String
  | unreadable fault => fault.message
  | refused error => error.message
  | unwritten error => error.message

/-- The text of a source on disk, unless it is too large. -/
def readSource (files : FileAccess m) (path : String) : m (Except SourceError Text) := do
  match ← files.kind path with
  | .error fault => return .error (.unreadable fault)
  | .ok kind =>
    match Source.checkSize kind.size Source.usualSizeLimit with
    | .error error => return .error (.refused error)
    | .ok () => return ((← files.readText path).map String.toList).mapError .unreadable

/-- Writes a record, and tells where. -/
def writeQuest (host : Host m) (outlet : Outlet) (input : InputContext) (quest : ExtractedQuest)
    (directory : String) : Session m (Except SourceError Unit) := do
  let output := Output.directory host.files.inSession directory
  match ← output.writeRecord quest.key quest.record with
  | .error error => return .error (.unwritten (.persist quest.key error))
  | .ok path =>
    Session.deliver host outlet (some input) [Attempt.writtenMessage path]
    Session.print host .output (input.name ++ " -> " ++ path)
    return .ok ()

/-- Makes the record of one source. -/
def compileSource (host : Host m) (outlet : Outlet) (options : Options) (input : InputContext)
    (path : String) : Session m (Except SourceError Unit) := do
  match ← readSource host.files.inSession path with
  | .error error =>
    Session.deliver host outlet (some input) []
    return .error error
  | .ok source =>
    let quest := ExtractedQuest.ofSource input.name source
    Session.deliver host outlet (some input) quest.events
    match options.outputDirectory with
    | some directory => writeQuest host outlet input quest.value directory
    | none =>
      Session.print host .output (String.ofList quest.value.record.fileText)
      return .ok ()

/-- The display name of a source: the name asked for, or else the name of its file. -/
def displayName (options : Options) (path : String) : String :=
  (options.name.orElse fun _ => Path.stem? path).getD ""

/-- Makes the record of one source, and tells whether that worked. -/
def compileFile (host : Host m) (outlet : Outlet) (options : Options) (path : String)
    (number : Nat) : Session m Bool := do
  match ← compileSource host outlet options ⟨displayName options path, number⟩ path with
  | .ok () => return true
  | .error error =>
    Session.print host .errors (path ++ ": " ++ error.message)
    return false

/-- A source is a file with the right extension, in letters of either case. -/
def isSource (path : String) : Bool :=
  (Path.extension? path).any fun extension => extension.toList.map Char.toLower == "java".toList

/-- No tree is deeper: each directory takes two bytes of a path, which has no more than 4096. -/
def depthLimit : Nat := 2048

/-- The sources in a directory and in directories below it, so many levels down. They come in the
order of their names, and those of a directory in its place among its neighbours. -/
def sourcesBelow (files : FileAccess m) : Nat → String → m (List String)
  | 0, _ => return []
  | levels + 1, directory => do
    match ← files.list directory with
    | .error _ => return []
    | .ok names =>
      let found ← names.mapM fun name => do
        let path := Path.join directory name
        match ← files.kind path with
        | .ok .directory => sourcesBelow files levels path
        | .ok (.file _) => return if isSource path then [path] else []
        | .error _ => return []
      return found.flatten

/-- Makes the records of all sources of a directory, and tells how many failed. -/
def compileDirectory (host : Host m) (outlet : Outlet) (options : Options) (directory : String) :
    Session m Nat := do
  let levels := if options.recursive then depthLimit else 1
  let sources ← sourcesBelow host.files.inSession levels directory
  if sources.isEmpty then
    Session.print host .errors ("No .java files found in " ++ directory)
    return 0
  let results ← sources.zipIdx.mapM fun (path, number) =>
    compileFile host outlet { options with name := none } path number
  let failures := results.countP (!·)
  Session.print host .errors ("Extracted " ++ toString (sources.length - failures) ++ " of " ++
    toString sources.length ++ " sources (" ++ toString failures ++ " failed)")
  return failures

def usage (program : String) : String :=
  "Usage: " ++ program ++ " <Quest.java|directory> [options]\n" ++
    "       " ++ program ++ " --help"

def help (program : String) : String := String.intercalate "\n" [
  "Quest Compiler v0.1.0",
  "Offline extraction of quest records from local quest helper sources",
  "",
  "USAGE:",
  "    " ++ program ++ " <Quest.java> [options]     # Extract one source",
  "    " ++ program ++ " <directory> [options]      # Extract every .java file",
  "",
  "OPTIONS:",
  "    --help              Show this help message",
  "    --out DIR           Write <key>.json records to DIR instead of stdout",
  "    --name NAME         Quest display name for a single file",
  "    --no-recursive      Don't search subdirectories",
  "",
  "EXAMPLES:",
  "    " ++ program ++ " CooksAssistant.java --name \"Cook's Assistant\"",
  "    " ++ program ++ " quest-helper/src/main/java/ --out quests/"]

/-- Makes the records of what a path leads to, and tells how many failed; `none` if the path leads
to neither a file nor a directory. -/
def compilePath (host : Host m) (outlet : Outlet) (options : Options) (path : String) :
    Session m (Option Nat) := do
  match ← host.files.inSession.kind path with
  | .ok (.file _) =>
    return some (if ← compileFile host outlet options path 0 then 0 else 1)
  | .ok .directory => return some (← compileDirectory host outlet options path)
  | .error _ => return none

/-- Works on a path as the options ask. -/
def work (host : Host m) (outlet : Outlet) (path : String) (words : List String) :
    Session m UInt32 := do
  let (options, warnings) := Options.read {} words
  warnings.forM (Session.print host .errors)
  match ← compilePath host outlet options path with
  | none =>
    Session.print host .errors "Error: Input must be a .java file or a directory"
    Session.print host .errors ("  Path: " ++ path)
    return 1
  | some failures =>
    Session.report host
    return if 0 < failures then 1 else 0

/-- Runs the command under the name of a program; gives its exit code. -/
def run (host : Host m) (program : String) (arguments : List String) : m UInt32 := do
  let logging := host.environment.settings.logging
  let outlet : Outlet := { backend := logging.backend }
  let session : Session m UInt32 := do
    Session.deliver host outlet none [Session.readyMessage]
    match arguments with
    | [] =>
      Session.print host .errors (usage program)
      return 1
    | "--help" :: _ =>
      Session.print host .output (help program)
      return 0
    | path :: words => work host outlet path words
  return (← session.run logging.journal).1

end QuestRecords.Compile
