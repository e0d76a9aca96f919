/-! The shortest decimal of a double: of all decimals that read back as the same double, those
with the fewest digits, and of these the nearest. The arithmetic is exact. -/
namespace QuestRecords.Decimal

/-- A positive decimal `digits · 10 ^ exponent`. -/
structure Scaled where
  digits : Nat
  exponent : Int
  deriving DecidableEq

/-- A power of two. -/
def twoTo (exponent : Nat) : Nat := Nat.pow 2 exponent

/-- A power of ten. -/
def tenTo (exponent : Nat) : Nat := Nat.pow 10 exponent

/-- The mantissa and the exponent of two of a finite double, without its sign. -/
def mantissaExponent (bits : UInt64) : Nat × Int :=
  let fraction : Nat := bits.toNat % twoTo 52
  let biased : Nat := bits.toNat / twoTo 52 % twoTo 11
  if biased = 0 then (fraction, -1074) else (twoTo 52 + fraction, (biased : Int) - 1075)

/-- The numbers that round to a double, with their midpoint, in units of a common denominator.
The ends belong to the interval when the mantissa is even. -/
structure Rounding where
  low : Nat
  mid : Nat
  high : Nat
  denominator : Nat
  closed : Bool

/-- Below a power of two the next double is half as far away as above it. -/
def Rounding.ofBits (bits : UInt64) : Rounding :=
  let (mantissa, exponent) := mantissaExponent bits
  let narrow := decide (mantissa = twoTo 52 ∧ -1074 < exponent)
  let unit := twoTo exponent.toNat
  { low := (4 * mantissa - (if narrow then 1 else 2)) * unit
    mid := 4 * mantissa * unit
    high := (4 * mantissa + 2) * unit
    denominator := 4 * twoTo (-exponent).toNat
    closed := mantissa % 2 = 0 }

/-- Whether `digits · 10 ^ exponent` rounds to the double. -/
def Rounding.contains (rounding : Rounding) (decimal : Scaled) : Bool :=
  let value := decimal.digits * tenTo decimal.exponent.toNat * rounding.denominator
  let scale := tenTo (-decimal.exponent).toNat
  if rounding.closed then rounding.low * scale ≤ value && value ≤ rounding.high * scale
  else rounding.low * scale < value && value < rounding.high * scale

/-- The nearest of the two neighbours on the grid of step `10 ^ exponent` that round to the
double; a tie goes to the even digit. -/
def Rounding.onGrid? (rounding : Rounding) (exponent : Int) : Option Scaled :=
  let scale := tenTo (-exponent).toNat
  let step := tenTo exponent.toNat * rounding.denominator
  let below := rounding.mid * scale / step
  let excess := 2 * (rounding.mid * scale % step)
  let nearest := if excess < step || (excess == step && below % 2 == 0) then below else below + 1
  let other := if nearest = below then below + 1 else below
  if rounding.contains ⟨nearest, exponent⟩ then some ⟨nearest, exponent⟩
  else if rounding.contains ⟨other, exponent⟩ then some ⟨other, exponent⟩
  else none

/-- The number of decimal digits. -/
def digitCount (value : Nat) : Nat := (Nat.toDigits 10 value).length

/-- The exponent of ten of the leading digit. -/
def Rounding.leadingExponent (rounding : Rounding) : Int :=
  if rounding.denominator ≤ rounding.mid then
    (digitCount (rounding.mid / rounding.denominator) : Int) - 1
  else
    let down := digitCount (rounding.denominator / rounding.mid)
    if rounding.denominator ≤ rounding.mid * tenTo (down - 1) then -((down : Int) - 1)
    else -(down : Int)

/-- Without the zeros at its end. -/
def Scaled.strip (decimal : Scaled) : Scaled :=
  if 0 < decimal.digits ∧ decimal.digits % 10 = 0 then
    strip ⟨decimal.digits / 10, decimal.exponent + 1⟩
  else decimal
termination_by decimal.digits

/-- The shortest decimal of a positive finite double: the first grid, from one digit on, that has
a point rounding to it. Seventeen digits always suffice. -/
def shortest (bits : UInt64) : Scaled :=
  let rounding := Rounding.ofBits bits
  let lead := rounding.leadingExponent
  match (List.range 18).findSome? fun more : Nat => rounding.onGrid? (lead - more) with
  | some decimal => decimal.strip
  | none => ⟨0, 0⟩

end QuestRecords.Decimal
