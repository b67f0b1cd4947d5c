import GCode.Json.Basic

/-!
# Numerals

A numeral is read one character at a time.  Its digits are collected in a word of 64 bits; those
that do not fit are dropped, whole ones into the power of ten and fractional ones for good.  A real
is its significand times or divided by a power of ten, rounded once for each of the two operations.
-/

namespace GCode
namespace Json

/-- The part of a numeral that was read last. -/
inductive NumeralPhase where
  /-- A minus sign, behind which a digit must come. -/
  | sign
  /-- A zero in front, behind which no digit may come. -/
  | zero
  /-- Digits of the whole part. -/
  | whole
  /-- The point, behind which a digit must come. -/
  | point
  /-- Digits of the fraction. -/
  | fraction
  /-- The mark of the exponent. -/
  | mark
  /-- The sign of the exponent, behind which a digit must come. -/
  | markSign
  /-- Digits of the exponent. -/
  | exponent
deriving DecidableEq, Repr

/-- Whether a numeral may end here. -/
def NumeralPhase.isComplete : NumeralPhase → Bool
  | zero | whole | fraction | exponent => true
  | sign | point | mark | markSign => false

/-- The part of a numeral that has been read. -/
structure Numeral where
  /-- Where reading stands. -/
  phase : NumeralPhase
  /-- Whether a minus sign stands in front. -/
  negative : Bool := false
  /-- The digits that fit into a word. -/
  significand : Nat := 0
  /-- The power of ten of the last collected digit, from its place in the text. -/
  shift : Int := 0
  /-- Whether a digit of the present part has been dropped. -/
  full : Bool := false
  /-- Whether there is no point, no exponent and no dropped digit. -/
  integral : Bool := true
  /-- Whether the written exponent is negative. -/
  exponentNegative : Bool := false
  /-- The absolute value of the written exponent. -/
  exponentSize : Nat := 0
deriving DecidableEq, Repr

namespace Numeral

/-- The numeral that a first character starts, if it starts one. -/
def begin? (character : Char) : Option Numeral :=
  if character = '-' then
    some { phase := .sign, negative := true }
  else if character = '0' then
    some { phase := .zero }
  else if character.isDigit then
    some { phase := .whole, significand := character.toNat - '0'.toNat }
  else
    none

/-- Adds a digit, unless one was dropped before it or a word cannot hold it. -/
def collect? (digit : Nat) (numeral : Numeral) : Option Nat :=
  let significand := numeral.significand * 10 + digit
  if !numeral.full && significand < Nat.pow 2 64 then some significand else none

/-- Reads a digit of the whole part. -/
def pushWhole (digit : Nat) (numeral : Numeral) : Numeral :=
  match numeral.collect? digit with
  | some significand => { numeral with phase := .whole, significand := significand }
  | none =>
      { numeral with
        phase := .whole, shift := numeral.shift + 1, full := true, integral := false }

/-- Reads a digit of the fraction. -/
def pushFraction (digit : Nat) (numeral : Numeral) : Numeral :=
  match numeral.collect? digit with
  | some significand =>
      { numeral with
        phase := .fraction, significand := significand, shift := numeral.shift - 1 }
  | none => { numeral with phase := .fraction, full := true }

/-- Reads a digit of the exponent. -/
def pushExponent (digit : Nat) (numeral : Numeral) : Numeral :=
  { numeral with phase := .exponent, exponentSize := numeral.exponentSize * 10 + digit }

/-- Reads the point. -/
def pushPoint (numeral : Numeral) : Numeral :=
  { numeral with phase := .point, full := false, integral := false }

/-- Reads the mark of the exponent. -/
def pushMark (numeral : Numeral) : Numeral :=
  { numeral with phase := .mark, integral := false }

/-- Reads the sign of the exponent. -/
def pushMarkSign (negative : Bool) (numeral : Numeral) : Numeral :=
  { numeral with phase := .markSign, exponentNegative := negative }

/-- What one more character does to a numeral. -/
inductive Step where
  /-- The character belongs to the numeral. -/
  | more (numeral : Numeral)
  /-- The numeral has ended before the character. -/
  | ended
  /-- No numeral goes on like this. -/
  | malformed

/-- Reads one more character. -/
def step (character : Char) (numeral : Numeral) : Step :=
  let digit := character.toNat - '0'.toNat
  let isMark := character = 'e' || character = 'E'
  match numeral.phase with
  | .sign =>
      if character = '0' then .more { numeral with phase := .zero }
      else if character.isDigit then .more (numeral.pushWhole digit)
      else .malformed
  | .zero =>
      if character.isDigit then .malformed
      else if character = '.' then .more numeral.pushPoint
      else if isMark then .more numeral.pushMark
      else .ended
  | .whole =>
      if character.isDigit then .more (numeral.pushWhole digit)
      else if character = '.' then .more numeral.pushPoint
      else if isMark then .more numeral.pushMark
      else .ended
  | .point =>
      if character.isDigit then .more (numeral.pushFraction digit) else .malformed
  | .fraction =>
      if character.isDigit then .more (numeral.pushFraction digit)
      else if isMark then .more numeral.pushMark
      else .ended
  | .mark =>
      if character.isDigit then .more (numeral.pushExponent digit)
      else if character = '+' then .more (numeral.pushMarkSign false)
      else if character = '-' then .more (numeral.pushMarkSign true)
      else .malformed
  | .markSign =>
      if character.isDigit then .more (numeral.pushExponent digit) else .malformed
  | .exponent =>
      if character.isDigit then .more (numeral.pushExponent digit) else .ended

/-- The power of ten that the significand is multiplied by. -/
def power (numeral : Numeral) : Int :=
  if numeral.exponentNegative then
    numeral.shift - numeral.exponentSize
  else
    numeral.shift + numeral.exponentSize

/-- A power of ten that a finite real can hold. -/
def powerOfTen (exponent : Nat) : Float := Float.ofScientific 1 false exponent

/-- A significand times a power of ten, unless it is too large for a real.  Powers below
`10 ^ -308` are divided out in two steps, and what is below `10 ^ -616` is zero. -/
def magnitude? (significand : Nat) (power : Int) : Option Float :=
  let start := Float.ofNat significand
  if significand = 0 then
    some start
  else if 0 ≤ power then
    if power ≤ 308 then
      let scaled := start * powerOfTen power.toNat
      if scaled.isInf then none else some scaled
    else
      none
  else if -308 ≤ power then
    some (start / powerOfTen (-power).toNat)
  else if -616 ≤ power then
    some (start / powerOfTen 308 / powerOfTen (-power - 308).toNat)
  else
    some 0

/-- The real that a numeral stands for, unless it is too large. -/
def real? (numeral : Numeral) : Option Float :=
  (magnitude? numeral.significand numeral.power).map fun size =>
    if numeral.negative then -size else size

/-- The value of a complete numeral, unless it is too large.  A negative integer has to fit into a
signed word, and minus zero is a real. -/
def value? (numeral : Numeral) : Option Json :=
  if numeral.integral && !numeral.negative then
    some (.integer numeral.significand)
  else if numeral.integral && 0 < numeral.significand && numeral.significand ≤ Nat.pow 2 63 then
    some (.integer (-numeral.significand))
  else
    numeral.real?.map Json.real

end Numeral
end Json
end GCode
