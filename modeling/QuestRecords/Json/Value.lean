import QuestRecords.Json.Number

/-! JSON documents. An object keeps its members in the order and number in which they were
written; `settle` gives each name its last value at its first place. -/
namespace QuestRecords

/-- A document. A scalar that is well formed and has no value, because it is a number larger than
every double or a string with half a surrogate pair, is `unreadable`; so is an object with such a
member name. -/
inductive Json where
  | null
  | bool (value : Bool)
  | number (value : Json.Number)
  | string (value : String)
  | array (items : List Json)
  | object (members : List (String × Json))
  | unreadable

namespace Json

def ofInt (value : Int) : Json := .number (.whole value)

def ofNat (value : Nat) : Json := .number (.whole value)

/-- Puts a member into a list of members: in the place of the first one of that name, or last. -/
def putMember (name : String) (value : Json) : List (String × Json) → List (String × Json)
  | [] => [(name, value)]
  | (other, old) :: rest =>
    if other = name then (name, value) :: rest else (other, old) :: putMember name value rest

/-- The members with one value each. -/
def distinctMembers (members : List (String × Json)) : List (String × Json) :=
  members.foldl (fun kept (name, value) => putMember name value kept) []

mutual

/-- The document with one value for each member name, at every depth. -/
def settle : Json → Json
  | array items => array (settleItems items)
  | object members => object (distinctMembers (settleMembers members))
  | other => other

def settleItems : List Json → List Json
  | [] => []
  | item :: rest => settle item :: settleItems rest

def settleMembers : List (String × Json) → List (String × Json)
  | [] => []
  | (name, value) :: rest => (name, settle value) :: settleMembers rest

end

mutual

/-- How many arrays and objects stand inside one another. -/
def depth : Json → Nat
  | array items => depthItems items + 1
  | object members => depthMembers members + 1
  | _ => 0

def depthItems : List Json → Nat
  | [] => 0
  | item :: rest => max (depth item) (depthItems rest)

def depthMembers : List (String × Json) → Nat
  | [] => 0
  | (_, value) :: rest => max (depth value) (depthMembers rest)

end

mutual

/-- Every part of the document has a value. -/
def isReadable : Json → Bool
  | array items => isReadableItems items
  | object members => isReadableMembers members
  | unreadable => false
  | _ => true

def isReadableItems : List Json → Bool
  | [] => true
  | item :: rest => isReadable item && isReadableItems rest

def isReadableMembers : List (String × Json) → Bool
  | [] => true
  | (_, value) :: rest => isReadable value && isReadableMembers rest

end

end Json
end QuestRecords
