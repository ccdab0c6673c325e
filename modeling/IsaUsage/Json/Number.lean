import IsaUsage.Decimal.Shortest

namespace IsaUsage.Json

/-!
# JSON numbers

A number literal is an integer when it has neither fraction nor exponent and
fits 64 bits, with or without a sign. Every other literal is a double precision
number: as many leading digits as fit 64 bits, scaled by a power of ten. Minus
zero is one of these.
-/

/-- A number as it is written. -/
structure NumberLiteral where
  negative : Bool
  whole : List Char
  fraction : Option (List Char)
  /-- The sign and the digits of the exponent; the sign is true for a minus. -/
  exponent : Option (Bool × List Char)
  deriving DecidableEq

/-- What a number literal stands for. -/
inductive Number where
  | natural (value : Nat)
  | negative (magnitude : Nat)
  | floating (value : Float)

/-- How floating point numbers are shown. -/
def floatingFormat : Decimal.NumeralFormat where
  smallest := -5
  largest := 15

namespace NumberLiteral

/-- One more than the largest significand, which has 64 bits. -/
def significandBound : Nat := 1 <<< 64

/-- The largest magnitude of an exponent that is told from larger ones. -/
def exponentLimit : Nat := 2147483647

/-- The largest power of ten that a double precision number can hold. -/
def largestPower : Nat := 308

/-- As many digits as a significand can take, and the digits left over. -/
def absorb : Nat → List Char → Nat × List Char
  | significand, [] => (significand, [])
  | significand, c :: digits =>
      let next := significand * 10 + Decimal.digitValue c
      if next < significandBound then absorb next digits
      else (significand, c :: digits)

/-- A power of ten as a double precision number. -/
def powerOfTen (exponent : Nat) : Float :=
  Float.ofScientific 1 false exponent

/--
A number times a power of ten, in steps of the largest power. A number out of
range has no result; one too small becomes zero.
-/
def scale? (value : Float) (exponent : Int) : Option Float :=
  if exponent.natAbs ≤ largestPower then
    if exponent < 0 then
      some (value / powerOfTen exponent.natAbs)
    else
      let scaled := value * powerOfTen exponent.natAbs
      if scaled.isInf then none else some scaled
  else if value == 0 then some value
  else if exponent > 0 then none
  else scale? (value / powerOfTen largestPower) (exponent + largestPower)
termination_by exponent.natAbs
decreasing_by
  simp only [largestPower] at *
  omega

/-- The magnitude of a literal as a double precision number. -/
def magnitude? (literal : NumberLiteral) : Option Float :=
  let (wholePart, dropped) := absorb 0 literal.whole
  let fraction := literal.fraction.getD []
  let (significand, unused) := absorb wholePart fraction
  let shift : Int := dropped.length - (fraction.length - unused.length : Nat)
  let value := significand.toUInt64.toFloat
  match literal.exponent with
  | none => scale? value shift
  | some (isNegative, digits) =>
      let power := Decimal.read digits
      if power > exponentLimit then
        if significand = 0 || isNegative then some 0 else none
      else
        scale? value (if isNegative then shift - power else shift + power)

/-- What a literal stands for; a number out of range stands for nothing. -/
def value? (literal : NumberLiteral) : Option Number :=
  let whole := Decimal.read literal.whole
  if literal.fraction.isNone && literal.exponent.isNone &&
      !literal.negative && whole < significandBound then
    some (.natural whole)
  else if literal.fraction.isNone && literal.exponent.isNone &&
      literal.negative && 0 < whole && whole ≤ significandBound / 2 then
    some (.negative whole)
  else
    literal.magnitude?.map fun magnitude =>
      .floating (if literal.negative then -magnitude else magnitude)

end NumberLiteral
end IsaUsage.Json
