import QuestRecords.Files.Fault
import QuestRecords.Files.Path

/-! File trees: files and directories by their place below the root, which is the list of names
that leads there. A tree has a working directory, from which relative paths are walked. -/
namespace QuestRecords

abbrev Place := List String

inductive FileEntry where
  | directory
  | file (content : ByteArray)

structure FileTree where
  entries : List (Place × FileEntry) := []
  workingDirectory : Place := []

namespace FileTree

/-- What stands at a place; the root is a directory. -/
def get? (tree : FileTree) (place : Place) : Option FileEntry :=
  if place = [] then some .directory else tree.entries.lookup place

/-- Gives a place an entry, in place of an old one. -/
def put (tree : FileTree) (place : Place) (entry : FileEntry) : FileTree :=
  let entries := tree.entries
  { tree with entries :=
      if (entries.lookup place).isSome then
        entries.map fun old => if old.1 = place then (place, entry) else old
      else entries ++ [(place, entry)] }

def isDirectoryAt (tree : FileTree) (place : Place) : Bool :=
  match tree.get? place with
  | some .directory => true
  | _ => false

/-- The longest name, in bytes. -/
def nameLimit : Nat := 255

/-- The longest path, in bytes. -/
def pathLimit : Nat := 4095

/-- Whether a path can be walked at all. -/
def checkPath (path : String) : Except FileFault Unit := do
  if path.toList.contains '\x00' then throw .zeroInPath
  if path.isEmpty then throw .notFound
  if pathLimit < path.utf8ByteSize then throw .nameTooLong

/-- Takes one step from a directory to something in it. -/
def step (tree : FileTree) (place : Place) (name : String) : Except FileFault Place :=
  if !tree.isDirectoryAt place then .error .notADirectory
  else if name = "." then .ok place
  else if name = ".." then .ok place.dropLast
  else if nameLimit < name.utf8ByteSize then .error .nameTooLong
  else if (tree.get? (place ++ [name])).isNone then .error .notFound
  else .ok (place ++ [name])

def start (tree : FileTree) (path : String) : Place :=
  if Path.isAbsolute path then [] else tree.workingDirectory

/-- The place that a path leads to, at which there is something. -/
def locate (tree : FileTree) (path : String) : Except FileFault Place := do
  checkPath path
  let place ← (Path.steps path).foldlM tree.step (tree.start path)
  if Path.endsInSlash path && !tree.isDirectoryAt place then throw .notADirectory
  return place

/-- The directory in which a path ends, and the last name. -/
def locateLast (tree : FileTree) (path : String) : Except FileFault (Place × String) := do
  checkPath path
  match (Path.steps path).getLast? with
  | none => throw .notFound
  | some name =>
    let place ← (Path.steps path).dropLast.foldlM tree.step (tree.start path)
    if !tree.isDirectoryAt place then throw .notADirectory
    if nameLimit < name.utf8ByteSize then throw .nameTooLong
    return (place, name)

/-- What a path leads to. -/
def entry (tree : FileTree) (path : String) : Except FileFault FileEntry := do
  match tree.get? (← tree.locate path) with
  | some entry => return entry
  | none => throw .notFound

def isDirectory (tree : FileTree) (path : String) : Bool :=
  match tree.entry path with
  | .ok .directory => true
  | _ => false

def isFile (tree : FileTree) (path : String) : Bool :=
  match tree.entry path with
  | .ok (.file _) => true
  | _ => false

/-- The content of a file. -/
def read (tree : FileTree) (path : String) : Except FileFault ByteArray := do
  match ← tree.entry path with
  | .file content => return content
  | .directory => throw .isADirectory

def isDots (name : String) : Bool := name = "." || name = ".."

/-- Writes a file, in place of an old one. -/
def write (tree : FileTree) (path : String) (content : ByteArray) : Except FileFault FileTree := do
  let (place, name) ← tree.locateLast path
  if isDots name || Path.endsInSlash path || tree.isDirectoryAt (place ++ [name]) then
    throw .isADirectory
  return tree.put (place ++ [name]) (.file content)

/-- Makes one directory in a directory that is there. -/
def makeDirectory (tree : FileTree) (path : String) : Except FileFault FileTree := do
  let (place, name) ← tree.locateLast path
  if isDots name || (tree.get? (place ++ [name])).isSome then throw .alreadyExists
  return tree.put (place ++ [name]) .directory

/-- Follows names from a place and makes the directories that are missing on the way; stops at the
first fault. -/
def makeMissing (tree : FileTree) (place : Place) : List String → FileTree × Except FileFault Place
  | [] => (tree, .ok place)
  | name :: rest =>
    match tree.step place name with
    | .ok next =>
      if tree.isDirectoryAt next then makeMissing tree next rest
      else (tree, .error (if rest.isEmpty then .alreadyExists else .notADirectory))
    | .error .notFound => makeMissing (tree.put (place ++ [name]) .directory) (place ++ [name]) rest
    | .error fault => (tree, .error fault)

/-- Makes a directory and those on the way to it, unless they are there. A fault leaves what was
made before it. -/
def makeDirectories (tree : FileTree) (path : String) : FileTree × Except FileFault Unit :=
  if path.isEmpty || tree.isDirectory path then (tree, .ok ())
  else
    match tree.makeDirectory path with
    | .ok made => (made, .ok ())
    | .error .notFound =>
      let (parents, made) := tree.makeMissing (tree.start path) (Path.names path).dropLast
      match made.bind fun _ => parents.makeDirectory path with
      | .ok whole => (whole, .ok ())
      | .error fault => (parents, if parents.isDirectory path then .ok () else .error fault)
    | .error fault => (tree, .error fault)

/-- Inserts a name into names in ascending order. -/
def insertName (name : String) : List String → List String
  | [] => [name]
  | other :: rest => if name < other then name :: other :: rest else other :: insertName name rest

/-- The names in a directory, in ascending order. -/
def namesAt (tree : FileTree) (place : Place) : List String :=
  (tree.entries.filterMap fun (other, _) =>
    if other.dropLast = place then other.getLast? else none).foldr insertName []

/-- The names in the directory that a path leads to. -/
def list (tree : FileTree) (path : String) : Except FileFault (List String) := do
  let place ← tree.locate path
  if tree.isDirectoryAt place then return tree.namesAt place else throw .notADirectory

/-- All files, with their places. -/
def files (tree : FileTree) : List (Place × ByteArray) :=
  tree.entries.filterMap fun (place, entry) =>
    match entry with
    | .file content => some (place, content)
    | .directory => none

/-- Writes a file and makes the directories on the way to it. -/
def lay (tree : FileTree) (path : String) (content : ByteArray) : Except FileFault FileTree :=
  (tree.makeDirectories (Path.parent path)).1.write path content

/-- The files that are new or changed since an earlier tree. -/
def changes (earlier later : FileTree) : List (Place × ByteArray) :=
  later.files.filter fun (place, content) =>
    match earlier.get? place with
    | some (.file old) => old != content
    | _ => true

end FileTree
end QuestRecords
