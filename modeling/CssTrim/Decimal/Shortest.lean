import CssTrim.Decimal.Binary64

/-!
# The shortest decimal of a double

The decimal form of a double is the one with the fewest digits that reads back
as the same double, and of those the nearest.  A decimal reads back if it lies
in the interval of numbers that round to the double; the ends of the interval
belong to it when the significand is even.

`Binary64.render` writes that decimal: positional from `0.0001` up to below
`10 ^ 16`, always with a fraction, and with a signed exponent of at least two
digits otherwise.
-/

namespace CssTrim.Binary64

/-- Whether `digits * 10 ^ exponent` rounds to the double with this magnitude.  The magnitudes are
compared in quarters of a unit. -/
def readsBack (units digits : Nat) (exponent : Int) : Bool :=
  let step := spacing units
  let even := units / step % 2 == 0
  let below := if units ≥ twoTo 53 ∧ units = twoTo units.log2 then step else 2 * step
  let scale := if exponent < 0 then tenTo exponent.natAbs else 1
  let value := 4 * digits * unitsInOne * (if exponent < 0 then 1 else tenTo exponent.natAbs)
  let low := (4 * units - below) * scale
  let high := (4 * units + 2 * step) * scale
  if even then low ≤ value && value ≤ high else low < value && value < high

/-- The exponent of the leading decimal digit of a positive magnitude. -/
def leadingExponent (units : Nat) : Int :=
  ((Text.ofNat (units * tenTo 400 / unitsInOne)).length : Int) - 401

/-- The magnitude divided by a power of ten: quotient and remainder over a common divisor. -/
def scaled (units : Nat) (exponent : Int) : Nat × Nat × Nat :=
  let num := if exponent < 0 then units * tenTo exponent.natAbs else units
  let den := if exponent < 0 then unitsInOne else unitsInOne * tenTo exponent.natAbs
  (num / den, num % den, den)

/-- The decimal with this exponent that reads back and is nearest to the magnitude, if one of the
two neighbours on that grid reads back. -/
def onGrid (units : Nat) (exponent : Int) : Option Nat :=
  let (low, rest, den) := scaled units exponent
  let lowFits := readsBack units low exponent
  let highFits := readsBack units (low + 1) exponent
  if lowFits ∧ highFits then
    if 2 * rest < den then some low
    else if 2 * rest = den then some (low + low % 2)
    else some (low + 1)
  else if lowFits then some low
  else if highFits then some (low + 1)
  else none

/-- The first grid with a decimal that reads back, for `count` grids from coarse to fine. -/
def searchGrid (units : Nat) : (count : Nat) → (exponent : Int) → Nat × Int
  | 0, exponent => ((scaled units exponent).1, exponent)
  | count + 1, exponent =>
    match onGrid units exponent with
    | some digits => (digits, exponent)
    | none => searchGrid units count (exponent - 1)

/-- The digits of the shortest decimal of a positive magnitude, without zeros at the end, and the
exponent of the first digit. -/
def shortest (units : Nat) : Text × Int :=
  let (digits, exponent) := searchGrid units 17 (leadingExponent units)
  let written := Text.ofNat digits
  let kept := (written.reverse.dropWhile (· == '0')).reverse
  (kept, exponent + written.length - 1)

/-- A text made at least `width` characters long by zeros in front. -/
def padZeros (width : Nat) (t : Text) : Text := List.replicate (width - t.length) '0' ++ t

/-- Writes digits with the point behind the digit that has exponent zero. -/
def positional (digits : Text) (exponent : Int) : Text :=
  if exponent < 0 then
    "0.".toList ++ List.replicate (exponent.natAbs - 1) '0' ++ digits
  else
    let whole := exponent.toNat + 1
    let fraction := digits.drop whole
    digits.take whole ++ List.replicate (whole - digits.length) '0' ++
      '.' :: (if fraction.isEmpty then ['0'] else fraction)

/-- Writes digits with one of them before the point, and an exponent. -/
def scientific (digits : Text) (exponent : Int) : Text :=
  let fraction := digits.drop 1
  digits.take 1 ++ (if fraction.isEmpty then [] else '.' :: fraction) ++
    'e' :: (if exponent < 0 then '-' else '+') :: padZeros 2 (Text.ofNat exponent.natAbs)

/-- The decimal form of a double. -/
def render : Binary64 → Text
  | nan => "nan".toList
  | infinite negative => (if negative then "-inf" else "inf").toList
  | finite negative units =>
    let magnitude :=
      if units = 0 then "0.0".toList
      else
        let (digits, exponent) := shortest units
        if exponent < -4 ∨ exponent ≥ 16 then scientific digits exponent
        else positional digits exponent
    (if negative then ['-'] else []) ++ magnitude

end CssTrim.Binary64
