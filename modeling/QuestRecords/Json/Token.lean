import QuestRecords.Json.Value
import QuestRecords.Text.Basic

/-! The tokens of a JSON text. -/
namespace QuestRecords.Json

/-- Punctuation, a string, or another scalar. A string with half a surrogate pair has no value. -/
inductive Token where
  | openBrace
  | closeBrace
  | openBracket
  | closeBracket
  | comma
  | colon
  | text (value : Option String)
  | scalar (value : Json)

namespace Token

def isSpace (c : Char) : Bool := c == ' ' || c == '\t' || c == '\n' || c == '\r'

/-- The value of a hexadecimal digit. -/
def hexDigit? (c : Char) : Option Nat :=
  if c.isDigit then some (c.toNat - '0'.toNat)
  else if 'a' ≤ c ∧ c ≤ 'f' then some (c.toNat - 'a'.toNat + 10)
  else if 'A' ≤ c ∧ c ≤ 'F' then some (c.toNat - 'A'.toNat + 10)
  else none

/-- Four hexadecimal digits. -/
def hexUnit? (a b c d : Char) : Option Nat := do
  return (((← hexDigit? a) * 16 + (← hexDigit? b)) * 16 + (← hexDigit? c)) * 16 + (← hexDigit? d)

/-- What a backslash and one more character stand for. -/
def escaped? (c : Char) : Option Char :=
  if c = '"' ∨ c = '\\' ∨ c = '/' then some c
  else if c = 'b' then some '\x08'
  else if c = 'f' then some '\x0c'
  else if c = 'n' then some '\n'
  else if c = 'r' then some '\r'
  else if c = 't' then some '\t'
  else none

/-- A part of a string: a character, or a unit of 16 bits given by its number. -/
inductive Part where
  | char (c : Char)
  | unit (value : Nat)

/-- Reads the parts of a string behind its opening quote, and what follows the closing one.
Control characters have to be escaped. -/
def parts? : Text → Option (List Part × Text)
  | [] => none
  | '"' :: rest => some ([], rest)
  | '\\' :: 'u' :: a :: b :: c :: d :: rest => do
    let value ← hexUnit? a b c d
    let (parts, after) ← parts? rest
    return (.unit value :: parts, after)
  | '\\' :: c :: rest => do
    let c ← escaped? c
    let (parts, after) ← parts? rest
    return (.char c :: parts, after)
  | c :: rest =>
    if c.toNat < 0x20 ∨ c = '\\' then none
    else (parts? rest).map fun (parts, after) => (.char c :: parts, after)

def isHighSurrogate (value : Nat) : Bool := 0xD800 ≤ value && value < 0xDC00

def isLowSurrogate (value : Nat) : Bool := 0xDC00 ≤ value && value < 0xE000

/-- The characters that the parts spell; units of a surrogate pair stand together. -/
def spell? : List Part → Option Text
  | [] => some []
  | .char c :: rest => (spell? rest).map (c :: ·)
  | .unit high :: .unit low :: rest =>
    if isHighSurrogate high then
      if isLowSurrogate low then
        (spell? rest).map (Char.ofNat (0x10000 + (high - 0xD800) * 0x400 + (low - 0xDC00)) :: ·)
      else none
    else if isLowSurrogate high then none
    else (spell? (.unit low :: rest)).map (Char.ofNat high :: ·)
  | .unit value :: rest =>
    if isHighSurrogate value || isLowSurrogate value then none
    else (spell? rest).map (Char.ofNat value :: ·)

def digitValues (digits : Text) : List Nat := digits.map fun c => c.toNat - '0'.toNat

/-- One digit or more. -/
def digits? (text : Text) : Option (List Nat × Text) :=
  let digits := text.takeWhile Char.isDigit
  if digits = [] then none else some (digitValues digits, text.dropWhile Char.isDigit)

/-- The fraction of a number, if a point stands here. -/
def fraction? : Text → Option (List Nat × Bool × Text)
  | '.' :: rest => (digits? rest).map fun (digits, after) => (digits, true, after)
  | rest => some ([], false, rest)

/-- The exponent of a number, if its letter stands here; the flag tells that it is negative. -/
def exponent? : Text → Option (Option (Bool × List Nat) × Text)
  | c :: rest =>
    if c = 'e' ∨ c = 'E' then
      let (below, rest) := match rest with
        | '+' :: rest => (false, rest)
        | '-' :: rest => (true, rest)
        | rest => (false, rest)
      (digits? rest).map fun (digits, after) => (some (below, digits), after)
    else some (none, c :: rest)
  | [] => some (none, [])

/-- The whole digits of a number; only zero starts with the digit zero. -/
def whole? (text : Text) : Option (List Nat × Text) :=
  (digits? text).filter fun (whole, _) => whole.head? ≠ some 0 ∨ whole.length = 1

/-- A number without its sign. -/
def unsigned? (negative : Bool) (text : Text) : Option (Literal × Text) := do
  let (whole, rest) ← whole? text
  let (fraction, hasFraction, rest) ← fraction? rest
  let (exponent, rest) ← exponent? rest
  return ({ negative, whole, fraction, hasFraction, exponent }, rest)

def literal? : Text → Option (Literal × Text)
  | '-' :: rest => unsigned? true rest
  | rest => unsigned? false rest

def ofLiteral (literal : Literal) : Token :=
  .scalar (match literal.value? with
    | some value => .number value
    | none => .unreadable)

/-- The token of a punctuation character. -/
def punctuation? (c : Char) : Option Token :=
  if c = '\x7b' then some .openBrace
  else if c = '\x7d' then some .closeBrace
  else if c = '[' then some .openBracket
  else if c = ']' then some .closeBracket
  else if c = ',' then some .comma
  else if c = ':' then some .colon
  else none

/-- Reads a token that is no punctuation and starts with the given character. -/
def scalar? (c : Char) (rest : Text) : Option (Token × Text) :=
  if c = '"' then
    (parts? rest).map fun (parts, after) => (.text ((spell? parts).map String.ofList), after)
  else if c = 't' then (Text.after? "rue".toList rest).map (.scalar (.bool true), ·)
  else if c = 'f' then (Text.after? "alse".toList rest).map (.scalar (.bool false), ·)
  else if c = 'n' then (Text.after? "ull".toList rest).map (.scalar .null, ·)
  else (literal? (c :: rest)).map fun (literal, after) => (ofLiteral literal, after)

/-- Reads the token that starts with the given character. -/
def next? (c : Char) (rest : Text) : Option (Token × Text) :=
  match punctuation? c with
  | some token => some (token, rest)
  | none => scalar? c rest

end Token
end QuestRecords.Json
