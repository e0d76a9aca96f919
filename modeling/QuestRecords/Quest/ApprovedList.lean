import QuestRecords.Diagnostics.Logged
import QuestRecords.Files.Fault
import QuestRecords.Json.Parser
import QuestRecords.Json.Printer

/-! Lists of quests that are approved for processing: a JSON object from display names to `true`
or `false`. A repeated name keeps its first place and takes its last value. -/
namespace QuestRecords

/-- The approved names in the order of the list, and how many entries are not approved. -/
structure ApprovedList where
  names : List String := []
  declined : Nat := 0
  deriving DecidableEq

/-- Why there is no list. -/
inductive ListError where
  /-- The file could not be read. -/
  | unreadable (path : String) (fault : FileFault)
  /-- The text is not a JSON object. -/
  | notAnObject
  /-- The value of a name is neither `true` nor `false`. -/
  | notBoolean (name : String) (value : Json)

namespace ListError

def code : ListError → Code
  | unreadable _ _ => .listUnreadable
  | notAnObject | notBoolean _ _ => .listMalformed

def message : ListError → String
  | unreadable path fault => "Cannot read input list " ++ path ++ ": " ++ fault.message
  | notAnObject => "Malformed input list: not a JSON object"
  | notBoolean name value => "Malformed input list: value for \"" ++ name ++ "\" is " ++
      String.ofList value.compact ++ ", expected true or false"

end ListError

namespace ApprovedList

/-- Takes one entry of a list. -/
def add (list : ApprovedList) (entry : String × Json) : Except ListError ApprovedList :=
  match entry with
  | (name, .bool true) => .ok { list with names := list.names ++ [name] }
  | (_, .bool false) => .ok { list with declined := list.declined + 1 }
  | (name, value) => .error (.notBoolean name value)

/-- Reads the text of a list. -/
def parse (text : Text) : Except ListError ApprovedList :=
  match Json.parse? text with
  | some (.object entries) => entries.foldlM add {}
  | _ => .error .notAnObject

/-- Reads the list in the file at a path, given what the path holds. -/
def ofFile (path : String) : Except FileFault String → Except ListError ApprovedList
  | .error fault => .error (.unreadable path fault)
  | .ok text => parse text.toList

def ofNames (names : List String) : ApprovedList := { names }

def size (list : ApprovedList) : Nat := list.names.length

/-- Tells that a list has been read from a file, and whether nothing in it is approved. -/
def loaded (path : String) (list : ApprovedList) : List Event :=
  .success .listLoaded "Input list loaded" [("path", path), ("approved", toString list.size),
    ("declined", toString list.declined)] ::
  if list.size = 0 then
    [.warning .listEmpty "Input list approves no quests" [("path", path)]] else []

end ApprovedList
end QuestRecords
