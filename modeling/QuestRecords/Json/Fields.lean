import QuestRecords.Json.Value
import QuestRecords.Amount

/-! Reading values of a known shape from documents. An object with known fields may have others
beside them, and may be given as the array of its fields in their order. -/
namespace QuestRecords.Json

def string? : Json → Option String
  | string value => some value
  | _ => none

def bool? : Json → Option Bool
  | bool value => some value
  | _ => none

/-- A number written without fraction and exponent. -/
def integer? : Json → Option Int
  | number (.whole value) => some value
  | _ => none

def long? (json : Json) : Option Int64 := json.integer?.bind Amount.long?

def int? (json : Json) : Option Int32 := json.integer?.bind Amount.int?

def ofLong (value : Int64) : Json := ofInt value.toInt

/-- A value that may be absent: `null` or no value at all. -/
def nullable? (read : Json → Option α) : Option Json → Option (Option α)
  | none => some none
  | some null => some none
  | some json => (read json).map some

/-- A list of values of one shape. -/
def list? (read : Json → Option α) : Json → Option (List α)
  | array items => items.mapM read
  | _ => none

/-- The value of a member; a name with two values has none that could be read. -/
def member? (members : List (String × Json)) (name : String) : Option (Option Json) :=
  match members.filter (·.1 = name) with
  | [] => some none
  | [(_, value)] => some (some value)
  | _ => none

/-- The values of named fields, in the order of the names: the members of an object, or all items
of an array. -/
def fields? (names : List String) : Json → Option (List (Option Json))
  | array items => if items.length = names.length then some (items.map some) else none
  | object members => names.mapM (member? members)
  | _ => none

end QuestRecords.Json
