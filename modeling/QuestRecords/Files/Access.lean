import QuestRecords.Files.Tree

/-! What a program asks of the file system, whether that is a tree held as a value or the disk. -/
namespace QuestRecords

/-- What a path leads to. -/
inductive FileKind where
  | directory
  | file (size : Nat)
  deriving DecidableEq

/-- The size of what is found, in bytes; a directory has none. -/
def FileKind.size : FileKind → Nat
  | directory => 0
  | file size => size

/-- The names in a directory are listed in ascending order. -/
structure FileAccess (m : Type → Type) where
  kind : String → m (Except FileFault FileKind)
  read : String → m (Except FileFault ByteArray)
  list : String → m (Except FileFault (List String))
  makeDirectories : String → m (Except FileFault Unit)
  write : String → ByteArray → m (Except FileFault Unit)

namespace FileTree

def kind (tree : FileTree) (path : String) : Except FileFault FileKind := do
  match ← tree.entry path with
  | .directory => return .directory
  | .file content => return .file content.size

/-- The access to a tree that is part of a state. -/
def access (tree : σ → FileTree) (set : FileTree → σ → σ) : FileAccess (StateM σ) where
  kind path := return (tree (← get)).kind path
  read path := return (tree (← get)).read path
  list path := return (tree (← get)).list path
  makeDirectories path := do
    let (made, result) := (tree (← get)).makeDirectories path
    modify (set made)
    return result
  write path content := do
    match (tree (← get)).write path content with
    | .ok written => modify (set written); return .ok ()
    | .error fault => return .error fault

end FileTree

/-- The content of a file as text. -/
def FileAccess.readText [Monad m] (files : FileAccess m) (path : String) :
    m (Except FileFault String) := do
  match ← files.read path with
  | .error fault => return .error fault
  | .ok content =>
    match String.fromUTF8? content with
    | some text => return .ok text
    | none => return .error .notUtf8

end QuestRecords
