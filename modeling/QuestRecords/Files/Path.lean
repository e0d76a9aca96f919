/-! Paths as they are written. A path keeps its spelling; where it leads is decided by walking its
steps from the working directory, or from the root when it starts with a slash. -/
namespace QuestRecords.Path

def isAbsolute (path : String) : Bool := path.toList.head? == some '/'

/-- The path of something below a directory; an absolute path stays what it is. -/
def join (directory path : String) : String :=
  if isAbsolute path || directory.isEmpty then path
  else if directory.toList.getLast? == some '/' then directory ++ path
  else directory ++ "/" ++ path

/-- The parts of a text between slashes. -/
def splitSlashes : List Char → List Char × List (List Char)
  | [] => ([], [])
  | c :: rest =>
    let (first, others) := splitSlashes rest
    if c = '/' then ([], first :: others) else (c :: first, others)

/-- The names that a path passes; slashes next to each other count as one. -/
def steps (path : String) : List String :=
  let (first, others) := splitSlashes path.toList
  ((first :: others).filter (!·.isEmpty)).map String.ofList

/-- The path without its last name. -/
def parent (path : String) : String :=
  let directories := String.intercalate "/" (steps path).dropLast
  if isAbsolute path then "/" ++ directories else directories

/-- A path that ends in a slash leads to a directory. -/
def endsInSlash (path : String) : Bool := path.toList.getLast? == some '/'

/-- The steps without those that stay where they are. -/
def names (path : String) : List String := (steps path).filter (· ≠ ".")

/-- The last name, unless the path ends by going up or passes no name. -/
def fileName? (path : String) : Option String := (names path).getLast?.filter (· ≠ "..")

/-- A file name as what stands before its last dot and what stands behind it; a dot at the very
beginning divides nothing. -/
def splitName (name : String) : String × Option String :=
  let reversed := name.toList.reverse
  match reversed.dropWhile (· ≠ '.') with
  | '.' :: stem =>
    if stem.isEmpty then (name, none)
    else (String.ofList stem.reverse, some (String.ofList (reversed.takeWhile (· ≠ '.')).reverse))
  | _ => (name, none)

/-- The file name without its extension. -/
def stem? (path : String) : Option String := (fileName? path).map fun name => (splitName name).1

def extension? (path : String) : Option String :=
  (fileName? path).bind fun name => (splitName name).2

end QuestRecords.Path
