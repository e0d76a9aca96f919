import QuestRecords.Text.Blank
import QuestRecords.Amount

/-! Single arguments: identifiers, whole numbers and constants of a named family. -/
namespace QuestRecords.Source

open Text

def isIdentifierStart (c : Char) : Bool := c.isAlpha || c == '_'

def isIdentifierPart (c : Char) : Bool := c.isAlphanum || c == '_'

/-- A letter or underscore, then letters, digits and underscores, all of them ASCII. -/
def isIdentifier : Text → Bool
  | [] => false
  | c :: rest => isIdentifierStart c && rest.all isIdentifierPart

/-- The value of a run of ASCII digits. -/
def digitsValue (digits : Text) : Nat :=
  digits.foldl (fun value c => 10 * value + (c.toNat - '0'.toNat)) 0

/-- One ASCII digit or more. -/
def natural? (text : Text) : Option Nat :=
  if text ≠ [] ∧ text.all Char.isDigit then some (digitsValue text) else none

/-- An optional sign and one digit or more. -/
def signed? : Text → Option Int
  | '-' :: digits => (natural? digits).map fun value => -(value : Int)
  | '+' :: digits => (natural? digits).map Int.ofNat
  | digits => (natural? digits).map Int.ofNat

/-- A whole number with an optional sign that fits 64 bits. Blanks around it and underscores
between its digits do not count. -/
def integer? (token : Text) : Option Int64 :=
  (signed? ((trim token).filter (· != '_'))).bind Amount.long?

/-- A whole number that a plus sign may precede and that fits 64 bits without sign. -/
def unsigned? (text : Text) : Option Nat :=
  let digits := match text with
    | '+' :: rest => rest
    | _ => text
  (natural? digits).filter (· < UInt64.size)

/-- The identifier behind a family name and a dot, as in `Skill.MINING`. -/
def constantOf? (family token : Text) : Option Text := do
  let rest ← after? family (trim token)
  match trimStart rest with
  | '.' :: rest =>
    let name := trimStart rest
    if isIdentifier name then some name else none
  | _ => none

end QuestRecords.Source
