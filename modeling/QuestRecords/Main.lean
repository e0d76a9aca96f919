import QuestRecords.Command.Compile
import QuestRecords.Command.Scrape
import Std.Time.DateTime.Timestamp

/-! The program. Its first word names a command, which takes the others; the world around the
command is the machine it runs on. -/
namespace QuestRecords.Machine

/-- The fault that an error of the system stands for. -/
def faultOf : IO.Error → FileFault
  | .noFileOrDirectory .. => .notFound
  | .alreadyExists .. => .alreadyExists
  | error => .other (toString error)

def attempt (action : IO α) : IO (Except FileFault α) := do
  try
    return .ok (← action)
  catch error =>
    return .error (faultOf error)

def kindOf (path : String) : IO FileKind := do
  if path.isEmpty then throw (IO.Error.noFileOrDirectory path 2 "no path")
  let found ← ((← IO.currentDir) / path).metadata
  match found.type with
  | .dir => return .directory
  | .file => return .file found.byteSize.toNat
  | _ => throw (IO.userError "neither a file nor a directory")

def namesIn (directory : String) : IO (List String) := do
  let entries ← ((← IO.currentDir) / directory).readDir
  return (entries.toList.map (·.fileName)).foldr FileTree.insertName []

def files : FileAccess IO where
  kind path := attempt (kindOf path)
  read path := attempt (IO.FS.readBinFile path)
  list directory := attempt (namesIn directory)
  makeDirectories directory := attempt do
    if !directory.isEmpty then IO.FS.createDirAll directory
  write path content := attempt (IO.FS.writeBinFile path content)

def environment : IO Environment := do
  let values ← Environment.names.mapM fun name => return (name, ← IO.getEnv name)
  return fun name => (values.lookup name).join

/-- The processors that the system lists, or one if it lists none. -/
def processors : IO Nat := do
  match ← attempt (IO.FS.lines "/proc/cpuinfo") with
  | .ok lines => return max 1 (lines.toList.countP (·.startsWith "processor"))
  | .error _ => return 1

def now : IO Nat := do
  return (← Std.Time.Timestamp.now).toMillisecondsSinceUnixEpoch.toInt.toNat

/-- The machine as a host. No request is ever sent; sources come from checkouts. -/
def host : IO (Host IO) := do
  return {
    files
    environment := ← environment
    processors := ← processors
    now
    print := fun stream text =>
      match stream with
      | .output => IO.println text
      | .errors => IO.eprintln text
    download := fun _ location => return .failed (.network location "no network") }

end QuestRecords.Machine

def main (arguments : List String) : IO UInt32 := do
  let host ← QuestRecords.Machine.host
  match arguments with
  | "quest_compiler" :: rest => QuestRecords.Compile.run host "quest_compiler" rest
  | "quest_scraper" :: rest => QuestRecords.Scrape.run host rest
  | _ =>
    IO.eprintln "Usage: quest_compiler|quest_scraper [arguments]"
    return 1
