import QuestRecords.Decimal.Shortest
import QuestRecords.Json.Token
import QuestRecords.Source.Token
import QuestRecords.Toml.Value

/-! Values of TOML that are written without quotes: numbers, truth values, dates and times. -/
namespace QuestRecords.Toml.Scalar

/-- A character of such a value. -/
def isPart (c : Char) : Bool :=
  c.isAlphanum || c == '+' || c == '-' || c == '_' || c == '.' || c == ':'

/-- Digits of which none but the first may follow an underscore; without the underscores. -/
def digits? (isDigit : Char → Bool) : Text → Option Text
  | [] => none
  | [c] => if isDigit c then some [c] else none
  | c :: '_' :: rest => if isDigit c then (digits? isDigit rest).map (c :: ·) else none
  | c :: rest => if isDigit c then (digits? isDigit rest).map (c :: ·) else none

/-- A text without its sign, and whether the sign is minus. -/
def splitSign : Text → Bool × Text
  | '-' :: rest => (true, rest)
  | '+' :: rest => (false, rest)
  | rest => (false, rest)

/-- Decimal digits of which only a single one may be a zero in front. -/
def decimal? (text : Text) : Option Text :=
  if text.head? = some '0' ∧ text ≠ ['0'] then none else digits? Char.isDigit text

/-- The value of digits in a base. -/
def valueIn (base : Nat) (digits : Text) : Nat :=
  digits.foldl (fun value c => base * value + (Json.Token.hexDigit? c).getD 0) 0

/-- A digit of a base. -/
def isDigitOf (base : Nat) (c : Char) : Bool :=
  match Json.Token.hexDigit? c with
  | some value => value < base
  | none => false

def natural? (base : Nat) (text : Text) : Option Int :=
  (digits? (isDigitOf base) text).map fun digits => (valueIn base digits : Int)

/-- A whole number, in any base. -/
def whole? : Text → Option Int
  | '0' :: 'x' :: rest => natural? 16 rest
  | '0' :: 'o' :: rest => natural? 8 rest
  | '0' :: 'b' :: rest => natural? 2 rest
  | text =>
    let (negative, digits) := splitSign text
    (decimal? digits).map fun digits =>
      if negative then -(valueIn 10 digits : Int) else valueIn 10 digits

/-- A whole number of 64 bits. -/
def integer? (text : Text) : Option Int :=
  (whole? text).filter fun value => (Amount.long? value).isSome

def isExponentMark (c : Char) : Bool := c == 'e' || c == 'E'

/-- Splits at the first character of a kind: what stands before it and behind it. -/
def splitAt? (isMark : Char → Bool) (text : Text) : Option (Text × Text) :=
  match text.dropWhile (!isMark ·) with
  | [] => none
  | _ :: rest => some (text.takeWhile (!isMark ·), rest)

/-- An exponent without its mark. -/
def isExponent (text : Text) : Bool := (digits? Char.isDigit (splitSign text).2).isSome

/-- Whole digits with a fraction, or whole digits alone. -/
def isMantissa (fractionNeeded : Bool) (text : Text) : Bool :=
  match splitAt? (· == '.') text with
  | some (whole, fraction) => (decimal? whole).isSome && (digits? Char.isDigit fraction).isSome
  | none => !fractionNeeded && (decimal? text).isSome

/-- From here on, numbers round to more than the largest double. -/
def doubleLimit : Nat := Decimal.twoTo 1024 - Decimal.twoTo 970

/-- The value of an exponent without its mark. -/
def exponentValue (text : Text) : Int :=
  let (negative, digits) := splitSign text
  if negative then -(valueIn 10 digits : Int) else valueIn 10 digits

/-- Whether `digits · 10 ^ exponent` is beyond every double. The number of places decides, unless
it is that of the largest double. -/
def isBeyond (digits : Text) (exponent : Int) : Bool :=
  let digits := digits.dropWhile (· == '0')
  let places := digits.length + exponent
  if digits.isEmpty || places < 309 then false
  else if 309 < places then true
  else
    doubleLimit * Decimal.tenTo (-exponent).toNat ≤ valueIn 10 digits * Decimal.tenTo exponent.toNat

/-- Whether a mantissa and an exponent, both without underscores, are beyond every double. -/
def overflows (mantissa exponent : Text) : Bool :=
  match splitAt? (· == '.') mantissa with
  | some (whole, fraction) =>
    isBeyond (whole ++ fraction) (exponentValue exponent - (fraction.length : Int))
  | none => isBeyond mantissa (exponentValue exponent)

/-- A number with a fraction or an exponent or both, without its sign. -/
def isDecimalFloat (text : Text) : Bool :=
  match splitAt? isExponentMark text with
  | some (mantissa, exponent) => isMantissa false mantissa && isExponent exponent
  | none => isMantissa true text

/-- Whether such a number is beyond every double. -/
def isInfinite (text : Text) : Bool :=
  let digits := text.filter (· != '_')
  match splitAt? isExponentMark digits with
  | some (mantissa, exponent) => overflows mantissa exponent
  | none => overflows digits []

/-- A floating number. One that is larger than every double has to be written as `inf`; one that
is less than every double is minus infinity. -/
def isFloat (text : Text) : Bool :=
  let (negative, unsigned) := splitSign text
  unsigned == "inf".toList || unsigned == "nan".toList ||
    (isDecimalFloat unsigned && (negative || !isInfinite unsigned))

/-- A number of exactly two digits between two bounds. -/
def isTwo (low high : Nat) (text : Text) : Bool :=
  text.length == 2 && (match Source.natural? text with
    | some value => low ≤ value && value ≤ high
    | none => false)

def isLeap (year : Nat) : Bool := year % 4 == 0 && (year % 100 != 0 || year % 400 == 0)

def daysIn (year month : Nat) : Nat :=
  if month = 2 then if isLeap year then 29 else 28
  else if month = 4 ∨ month = 6 ∨ month = 9 ∨ month = 11 then 30
  else 31

/-- A date of the calendar, as in `1979-05-27`. -/
def isDate (text : Text) : Bool :=
  match text with
  | a :: b :: c :: d :: '-' :: e :: f :: '-' :: day =>
    match Source.natural? [a, b, c, d], Source.natural? [e, f] with
    | some year, some month => isTwo 1 12 [e, f] && isTwo 1 (daysIn year month) day
    | _, _ => false
  | _ => false

/-- Seconds, perhaps with a fraction. -/
def isSeconds (text : Text) : Bool :=
  isTwo 0 60 (text.take 2) && (match text.drop 2 with
    | [] => true
    | '.' :: fraction => (Source.natural? fraction).isSome
    | _ => false)

/-- A time of the day, as in `07:32:00`. -/
def isTime : Text → Bool
  | a :: b :: ':' :: c :: d :: ':' :: seconds =>
    isTwo 0 23 [a, b] && isTwo 0 59 [c, d] && isSeconds seconds
  | _ => false

/-- The distance from universal time, as in `-07:00`. -/
def isOffset : Text → Bool
  | a :: b :: ':' :: minutes => isTwo 0 23 [a, b] && isTwo 0 59 minutes
  | _ => false

/-- A time of the day, perhaps with its distance from universal time. -/
def isZonedTime (text : Text) : Bool :=
  isTime text || (match splitAt? (fun c => c == 'Z' || c == 'z') text with
    | some (time, rest) => rest.isEmpty && isTime time
    | none => false) || (match splitAt? (fun c => c == '+' || c == '-') text with
    | some (time, offset) => isTime time && isOffset offset
    | none => false)

def isDateTime (text : Text) : Bool :=
  isTime text || isDate text || (isDate (text.take 10) && (match text.drop 10 with
    | c :: time => (c == 'T' || c == 't' || c == ' ') && isZonedTime time
    | [] => false))

/-- The value of a whole word. -/
def ofWord? (word : Text) : Option Value :=
  if word = "true".toList then some (.boolean true)
  else if word = "false".toList then some (.boolean false)
  else match integer? word with
    | some value => some (.integer value)
    | none =>
      if isFloat word then some (.float word)
      else if isDateTime word then some (.dateTime word)
      else none

/-- The word that stands here; a date and a time with a blank between them are one word. -/
def word (text : Text) : Text × Text :=
  let first := text.takeWhile isPart
  let rest := text.dropWhile isPart
  match rest with
  | ' ' :: c :: more =>
    if isDate first && c.isDigit then
      (first ++ ' ' :: (c :: more).takeWhile isPart, (c :: more).dropWhile isPart)
    else (first, rest)
  | _ => (first, rest)

def read? (text : Text) : Option (Value × Text) :=
  let (word, rest) := word text
  (ofWord? word).map (·, rest)

end QuestRecords.Toml.Scalar
