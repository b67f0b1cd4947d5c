/-!
# Shortest decimals

The decimal with the fewest digits that rounds to a given binary floating-point number, and of
those the nearest to it.  All comparisons are between natural numbers.
-/

namespace GCode

/-- The number `digits · 10 ^ exponent`. -/
structure Decimal where
  /-- The significant digits, read as one number. -/
  digits : Nat
  /-- The power of ten that the last digit stands for. -/
  exponent : Int
deriving DecidableEq, Repr

/-- A positive binary floating-point number `significand · 2 ^ exponent`. -/
structure Binary where
  /-- The significand as a whole number. -/
  significand : Nat
  /-- The power of two that the last bit stands for. -/
  exponent : Int
  /-- Whether the next smaller number is only half as far away as the next larger one. -/
  narrowBelow : Bool
deriving DecidableEq, Repr

namespace Binary

/-- The significand and exponent of the absolute value of a finite number. -/
def ofFloat (value : Float) : Binary :=
  let bits : Nat := value.toBits.toNat
  let fraction : Nat := bits % Nat.pow 2 52
  let scale : Nat := bits / Nat.pow 2 52 % Nat.pow 2 11
  if scale = 0 then
    ⟨fraction, -1074, false⟩
  else
    ⟨Nat.pow 2 52 + fraction, (scale : Int) - 1075, fraction == 0 && 1 < scale⟩

end Binary

namespace Decimal

/-- A fraction of natural numbers. -/
structure Ratio where
  numerator : Nat
  denominator : Nat

/-- `value · 10 ^ power`. -/
def Ratio.scale (power : Int) (value : Ratio) : Ratio :=
  if 0 ≤ power then
    ⟨value.numerator * Nat.pow 10 power.toNat, value.denominator⟩
  else
    ⟨value.numerator, value.denominator * Nat.pow 10 (-power).toNat⟩

/-- The interval of the reals that round to a binary number, with that number between its ends,
all in units of a quarter of its last bit times `unit`. -/
structure Neighbourhood where
  lower : Nat
  middle : Nat
  upper : Nat
  unit : Ratio
  /-- Whether the ends themselves round to the number. -/
  closed : Bool

/-- The reals that round to a binary number, ties going to even significands. -/
def Neighbourhood.ofBinary (value : Binary) : Neighbourhood where
  lower := 4 * value.significand - (if value.narrowBelow then 1 else 2)
  middle := 4 * value.significand
  upper := 4 * value.significand + 2
  unit :=
    if 0 ≤ value.exponent then
      ⟨Nat.pow 2 value.exponent.toNat, 4⟩
    else
      ⟨1, 4 * Nat.pow 2 (-value.exponent).toNat⟩
  closed := value.significand % 2 == 0

/-- Whether a whole number of grid steps of size `1 / step` rounds to the binary number. -/
def Neighbourhood.contains (step : Ratio) (around : Neighbourhood) (count : Nat) : Bool :=
  let point := count * step.denominator
  let lower := around.lower * step.numerator
  let upper := around.upper * step.numerator
  if around.closed then
    lower ≤ point && point ≤ upper
  else
    lower < point && point < upper

/-- The nearer neighbour of the binary number on the decimal grid whose step is `10 ^ exponent`,
if one of the two rounds to it. -/
def Neighbourhood.onGrid? (around : Neighbourhood) (exponent : Int) : Option Decimal :=
  let step := around.unit.scale (-exponent)
  let target := around.middle * step.numerator
  let below := target / step.denominator
  let distanceBelow := target - below * step.denominator
  let distanceAbove := (below + 1) * step.denominator - target
  match around.contains step below, around.contains step (below + 1) with
  | true, true =>
      if distanceBelow < distanceAbove ∨ distanceBelow = distanceAbove ∧ below % 2 = 0 then
        some ⟨below, exponent⟩
      else
        some ⟨below + 1, exponent⟩
  | true, false => some ⟨below, exponent⟩
  | false, true => some ⟨below + 1, exponent⟩
  | false, false => none

/-- The first of `count` decimal grids, each ten times finer than the one before, that has a point
which rounds to the binary number. -/
def Neighbourhood.firstGrid (around : Neighbourhood) : (count : Nat) → Int → Decimal
  | 0, exponent => ⟨around.middle, exponent⟩
  | count + 1, exponent =>
      match around.onGrid? exponent with
      | some decimal => decimal
      | none => around.firstGrid count (exponent - 1)

/-- The number of decimal digits of a natural number. -/
def digitCount (number : Nat) : Nat := (Nat.toDigits 10 number).length

/-- The shortest decimal that rounds to a positive binary number.  The coarsest grid has a step of
at least the number itself, and seventeen digits always suffice. -/
def ofBinary (value : Binary) : Decimal :=
  let around := Neighbourhood.ofBinary value
  let magnitude : Int :=
    (digitCount (around.middle * around.unit.numerator) : Int) - digitCount around.unit.denominator
  around.firstGrid 20 (magnitude + 1)

/-- The digits without zeros at the end, for at most `count` zeros. -/
def trimmed : (count : Nat) → Decimal → Decimal
  | 0, decimal => decimal
  | count + 1, decimal =>
      if decimal.digits % 10 = 0 then
        trimmed count ⟨decimal.digits / 10, decimal.exponent + 1⟩
      else
        decimal

/-- The shortest decimal that rounds to a positive floating-point number. -/
def ofFloat (value : Float) : Decimal := trimmed 20 (ofBinary (.ofFloat value))

end Decimal
end GCode
