/-! Numbers of JSON. A literal is read into a whole number when it has neither fraction nor
exponent and fits 64 bits, and into a double otherwise. -/
namespace QuestRecords.Json

/-- The value of a number: a whole number, or a double given by its bits. -/
inductive Number where
  | whole (value : Int)
  | double (bits : UInt64)
  deriving DecidableEq

/-- A number as written: sign, whole digits, and perhaps the digits of a fraction and of an
exponent with its sign. -/
structure Literal where
  negative : Bool
  whole : List Nat
  fraction : List Nat
  hasFraction : Bool
  exponent : Option (Bool × List Nat)

namespace Literal

/-- The largest significand that is kept. -/
def significandLimit : Nat := UInt64.size - 1

/-- Appends digits to a significand as long as it stays within the limit: the significand and how
many of the digits it took. -/
def accumulate (significand taken : Nat) : List Nat → Nat × Nat
  | [] => (significand, taken)
  | digit :: rest =>
    if 10 * significand + digit ≤ significandLimit then
      accumulate (10 * significand + digit) (taken + 1) rest
    else (significand, taken)

/-- The value of an exponent's digits, or `none` as soon as it passes 32 bits. -/
def exponentValue? (value : Nat) : List Nat → Option Nat
  | [] => some value
  | digit :: rest =>
    if 10 * value + digit ≤ Int32.maxValue.toInt.toNat then
      exponentValue? (10 * value + digit) rest
    else none

def tenPower (exponent : Nat) : Float := Float.ofScientific 1 false exponent

/-- Divides by a power of ten, in steps of at most 308 decimal places. -/
def scaleDown (value : Float) (places : Nat) : Float :=
  if places ≤ 308 then value / tenPower places
  else if value == 0.0 then value
  else scaleDown (value / tenPower 308) (places - 308)
termination_by places

/-- Multiplies by a power of ten; there is no value beyond the largest double. -/
def scaleUp? (value : Float) (places : Nat) : Option Float :=
  if places ≤ 308 then
    let scaled := value * tenPower places
    if scaled.isInf then none else some scaled
  else if value == 0.0 then some value
  else none

def scale? (significand : Nat) (exponent : Int) : Option Float :=
  let value := (UInt64.ofNat significand).toFloat
  if 0 ≤ exponent then scaleUp? value exponent.toNat else some (scaleDown value (-exponent).toNat)

/-- Exponents are kept within 32 bits. -/
def clampExponent (exponent : Int) : Int :=
  max Int32.minValue.toInt (min Int32.maxValue.toInt exponent)

/-- The double of a literal without its sign. Digits behind the last one that the significand
takes are dropped; dropped whole digits still count as places. -/
def magnitude? (literal : Literal) : Option Float :=
  let (leading, taken) := accumulate 0 0 literal.whole
  let dropped := literal.whole.length - taken
  let (significand, places) := accumulate leading 0 literal.fraction
  let start : Int := (dropped : Int) - places
  match literal.exponent with
  | none => scale? significand start
  | some (below, digits) =>
    match exponentValue? 0 digits with
    | some exponent =>
      scale? significand (clampExponent (if below then start - exponent else start + exponent))
    | none => if significand ≠ 0 ∧ below = false then none else some 0.0

/-- The number that a literal stands for; `none` when it is larger than every double. Minus zero
is a double. -/
def value? (literal : Literal) : Option Number :=
  let (significand, taken) := accumulate 0 0 literal.whole
  let signed (value : Float) : Number := .double (if literal.negative then -value else value).toBits
  if taken = literal.whole.length ∧ literal.hasFraction = false ∧ literal.exponent.isNone then
    if literal.negative = false then some (.whole significand)
    else if 0 < significand ∧ Int64.minValue.toInt ≤ -(significand : Int) then
      some (.whole (-(significand : Int)))
    else some (signed (UInt64.ofNat significand).toFloat)
  else literal.magnitude?.map signed

end Literal
end QuestRecords.Json
