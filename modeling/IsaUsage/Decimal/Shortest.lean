import IsaUsage.Decimal

namespace IsaUsage.Decimal

/-!
# The shortest numeral of a binary fraction

A binary floating point number stands for every real number that rounds to it.
Its shortest numeral is the one with the fewest digits among those, and the
nearest of several. It is found in exact arithmetic: for one digit, two digits
and so on, the two neighbours of the number on that decimal grid are tried.
-/

/--
A positive number `mantissa * 2 ^ exponent`. The step to the next smaller number
is half the step to the next larger one when `atPower` holds.
-/
structure BinaryFraction where
  mantissa : Nat
  exponent : Int
  atPower : Bool

/-- A positive number `digits * 10 ^ exponent`. -/
structure DecimalFraction where
  digits : Nat
  exponent : Int

namespace BinaryFraction

/-- The leading bit of a mantissa, which is not written down. -/
def hiddenBit : Nat := 1 <<< 52

/-- The parts of a positive finite double precision number. -/
def ofBits (bits : Nat) : BinaryFraction :=
  let fraction := bits % hiddenBit
  let scale : Nat := bits / hiddenBit % 2048
  if scale = 0 then ⟨fraction, -1074, false⟩
  else ⟨fraction + hiddenBit, (scale : Int) - 1075, fraction = 0 && scale > 1⟩

/-- A power of ten. -/
def powerOfTen (exponent : Nat) : Nat :=
  Nat.pow 10 exponent

/--
A number of quarter steps of the mantissa, over the common denominator of the
quarter step and of the grid of tens.
-/
def overGrid (value : BinaryFraction) (quarters : Nat) (grid : Int) : Nat :=
  quarters <<< (value.exponent - 2).toNat * powerOfTen (-grid).toNat

/-- A grid point over the same denominator. -/
def gridPoint (value : BinaryFraction) (digits : Nat) (grid : Int) : Nat :=
  (digits * powerOfTen grid.toNat) <<< (2 - value.exponent).toNat

/-- Whether a grid point rounds to the number. -/
def admits (value : BinaryFraction) (digits : Nat) (grid : Int) : Bool :=
  let point := value.gridPoint digits grid
  let low := value.overGrid
    (4 * value.mantissa - (if value.atPower then 1 else 2)) grid
  let high := value.overGrid (4 * value.mantissa + 2) grid
  if value.mantissa % 2 = 0 then low ≤ point && point ≤ high
  else low < point && point < high

/-- The exponent of the first decimal digit of the number. -/
def leadingExponent (value : BinaryFraction) : Int :=
  let numerator := value.overGrid (4 * value.mantissa) 0
  let denominator := value.gridPoint 1 0
  let guess : Int := (write numerator).length - (write denominator).length
  if numerator * powerOfTen (-guess).toNat ≥
      denominator * powerOfTen guess.toNat then
    guess
  else
    guess - 1

/-- The better neighbour of the number on a grid, if one rounds to it. -/
def onGrid? (value : BinaryFraction) (grid : Int) : Option DecimalFraction :=
  let exact := value.overGrid (4 * value.mantissa) grid
  let below := exact / value.gridPoint 1 grid
  let above := below + 1
  let belowFits := below > 0 && value.admits below grid
  let aboveFits := value.admits above grid
  let toBelow := exact - value.gridPoint below grid
  let toAbove := value.gridPoint above grid - exact
  let belowIsBetter :=
    toBelow < toAbove || (toBelow = toAbove && below % 2 = 0)
  if belowFits && (!aboveFits || belowIsBetter) then some ⟨below, grid⟩
  else if aboveFits then some ⟨above, grid⟩
  else none

/-- The first hit when the grid gets finer step by step. -/
def search (value : BinaryFraction) (grid : Int) : Nat → DecimalFraction
  | 0 => ⟨value.mantissa, 0⟩
  | tries + 1 =>
      match value.onGrid? grid with
      | some found => found
      | none => value.search (grid - 1) tries

/-- The shortest decimal that rounds to the number; 17 digits always do. -/
def shortest (value : BinaryFraction) : DecimalFraction :=
  value.search value.leadingExponent 17

end BinaryFraction

/-- Which exponents are written without an exponent part. -/
structure NumeralFormat where
  smallest : Int
  largest : Int

/-- Digits without the zeros at their end, but with at least one digit. -/
def significant (digits : List Char) : List Char :=
  match digits.reverse.dropWhile (· = '0') with
  | [] => ['0']
  | kept => kept.reverse

/-- The numeral of a positive decimal fraction. -/
def NumeralFormat.write
    (format : NumeralFormat)
    (value : DecimalFraction) :
    List Char :=
  let all := Decimal.write value.digits
  let digits := significant all
  let exponent : Int := value.exponent + all.length - 1
  if format.smallest ≤ exponent && exponent ≤ format.largest then
    if exponent < 0 then
      ['0', '.'] ++ List.replicate (-exponent - 1).toNat '0' ++ digits
    else
      let wholeLength := exponent.toNat + 1
      let whole :=
        digits.take wholeLength ++
          List.replicate (wholeLength - digits.length) '0'
      let fraction := digits.drop wholeLength
      whole ++ '.' :: (if fraction.isEmpty then ['0'] else fraction)
  else
    let fraction := digits.drop 1
    digits.take 1 ++ (if fraction.isEmpty then [] else '.' :: fraction) ++
      ['e', if exponent < 0 then '-' else '+'] ++
      Decimal.write exponent.natAbs

/-- The numeral of a finite double precision number. -/
def NumeralFormat.writeFloat (format : NumeralFormat) (value : Float) : String :=
  let bits := value.toBits.toNat
  let signBit := 1 <<< 63
  let magnitude := bits % signBit
  let sign := if bits < signBit then [] else ['-']
  let digits :=
    if magnitude = 0 then ['0', '.', '0']
    else format.write (BinaryFraction.ofBits magnitude).shortest
  String.ofList (sign ++ digits)

end IsaUsage.Decimal
