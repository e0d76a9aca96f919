import QuestRecords.Json.Value
import QuestRecords.Decimal.Shortest
import QuestRecords.Text.Basic

/-! Writing JSON: on one line without space, or with each item and member on a line of its own,
indented by two spaces per level. Names and items keep their order. -/
namespace QuestRecords.Json

/-- Four hexadecimal digits in lower case. -/
def hexFour (value : Nat) : Text :=
  let digits := Nat.toDigits 16 value
  List.replicate (4 - digits.length) '0' ++ digits

/-- One character inside of quotes. Only quotes, backslashes and control characters are
escaped. -/
def escapeChar (c : Char) : Text :=
  if c = '"' then ['\\', '"']
  else if c = '\\' then ['\\', '\\']
  else if c = '\x08' then ['\\', 'b']
  else if c = '\x0c' then ['\\', 'f']
  else if c = '\n' then ['\\', 'n']
  else if c = '\r' then ['\\', 'r']
  else if c = '\t' then ['\\', 't']
  else if c.toNat < 0x20 then '\\' :: 'u' :: hexFour c.toNat
  else [c]

def quote (value : String) : Text := '"' :: value.toList.flatMap escapeChar ++ ['"']

def writeInt (value : Int) : Text :=
  if value < 0 then '-' :: Nat.toDigits 10 value.natAbs else Nat.toDigits 10 value.natAbs

/-- A positive decimal. From a hundred-thousandth up to sixteen whole digits it is written in
places, with a point; beyond that with an exponent. -/
def writeScaled (decimal : Decimal.Scaled) : Text :=
  let digits := Nat.toDigits 10 decimal.digits
  let whole : Int := digits.length + decimal.exponent
  if 0 ≤ decimal.exponent ∧ whole ≤ 16 then
    digits ++ List.replicate decimal.exponent.toNat '0' ++ ['.', '0']
  else if 0 < whole ∧ whole ≤ 16 then
    digits.take whole.toNat ++ '.' :: digits.drop whole.toNat
  else if -5 < whole ∧ whole ≤ 0 then
    '0' :: '.' :: List.replicate (-whole).toNat '0' ++ digits
  else
    let exponent := whole - 1
    let mark : Text := if exponent < 0 then ['e', '-'] else ['e', '+']
    let fraction : Text := match digits.drop 1 with
      | [] => []
      | more => '.' :: more
    digits.take 1 ++ fraction ++ mark ++ Nat.toDigits 10 exponent.natAbs

/-- A finite double; it always shows a point or an exponent, and zero keeps its sign. -/
def writeDouble (bits : UInt64) : Text :=
  let sign : Text := if bits >>> 63 = 0 then [] else ['-']
  let size := bits &&& 0x7FFFFFFFFFFFFFFF
  sign ++ if size = 0 then ['0', '.', '0'] else writeScaled (Decimal.shortest size)

def writeNumber : Number → Text
  | .whole value => writeInt value
  | .double bits => writeDouble bits

mutual

/-- The document on one line. -/
def compact : Json → Text
  | null => "null".toList
  | bool value => (if value then "true" else "false").toList
  | number value => writeNumber value
  | string value => quote value
  | array items => '[' :: compactItems items ++ [']']
  | object members => '\x7b' :: compactMembers members ++ ['\x7d']
  | unreadable => "null".toList

def compactItems : List Json → Text
  | [] => []
  | [item] => compact item
  | item :: rest => compact item ++ ',' :: compactItems rest

def compactMembers : List (String × Json) → Text
  | [] => []
  | [(name, value)] => quote name ++ ':' :: compact value
  | (name, value) :: rest => quote name ++ ':' :: compact value ++ ',' :: compactMembers rest

end

/-- A line break and the indentation of a level. -/
def newLine (level : Nat) : Text := '\n' :: List.replicate (2 * level) ' '

mutual

/-- The document with one item or member a line, from a level of indentation on. -/
def indented (level : Nat) : Json → Text
  | null => "null".toList
  | bool value => (if value then "true" else "false").toList
  | number value => writeNumber value
  | string value => quote value
  | array [] => ['[', ']']
  | array (item :: rest) =>
    '[' :: indentedItems (level + 1) (item :: rest) ++ newLine level ++ [']']
  | object [] => ['\x7b', '\x7d']
  | object (member :: rest) =>
    '\x7b' :: indentedMembers (level + 1) (member :: rest) ++ newLine level ++ ['\x7d']
  | unreadable => "null".toList

def indentedItems (level : Nat) : List Json → Text
  | [] => []
  | [item] => newLine level ++ indented level item
  | item :: rest => newLine level ++ indented level item ++ ',' :: indentedItems level rest

def indentedMembers (level : Nat) : List (String × Json) → Text
  | [] => []
  | [(name, value)] => newLine level ++ quote name ++ ':' :: ' ' :: indented level value
  | (name, value) :: rest =>
    newLine level ++ quote name ++ ':' :: ' ' :: indented level value ++
      ',' :: indentedMembers level rest

end

/-- The document in its indented form. -/
def pretty (json : Json) : Text := indented 0 json

end QuestRecords.Json
