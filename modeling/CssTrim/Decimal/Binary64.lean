import CssTrim.Text

/-!
# Double precision numbers

A number in double precision, with its magnitude as a natural number of the
smallest positive such number, `2 ^ -1074`.  Every finite double is a whole
number of these units, so rounding and comparing need no fractions.

`Binary64.ofDecimal` is the double nearest to a decimal number.  Of two equally
near ones it is the one with the even significand.
-/

namespace CssTrim

/-- A number in double precision. -/
inductive Binary64 where
  /-- A finite number: its sign and its magnitude in units of `2 ^ -1074`. -/
  | finite (negative : Bool) (units : Nat)
  | infinite (negative : Bool)
  | nan
  deriving DecidableEq

namespace Binary64

/-- A power of two. -/
def twoTo (n : Nat) : Nat := Nat.pow 2 n

/-- A power of ten. -/
def tenTo (n : Nat) : Nat := Nat.pow 10 n

/-- The number of units in one. -/
def unitsInOne : Nat := twoTo 1074

/-- The smallest number of units that is too large for a finite double. -/
def limit : Nat := twoTo 2098

/-- The distance between neighbouring doubles at this magnitude. -/
def spacing (units : Nat) : Nat := if units < twoTo 53 then 1 else twoTo (units.log2 - 52)

/-- The whole number nearest to a fraction, of two the even one. -/
def roundDiv (num den : Nat) : Nat :=
  let low := num / den
  let twice := 2 * (num % den)
  if twice < den then low
  else if twice = den then low + low % 2
  else low + 1

/-- The magnitude, in units, of the double nearest to a fraction. -/
def roundUnits (num den : Nat) : Nat :=
  let step := spacing (num * unitsInOne / den)
  roundDiv (num * unitsInOne) (den * step) * step

/-- The double nearest to `digits * 10 ^ exponent`.  A magnitude that is far outside the range of
doubles is decided by its size alone. -/
def ofDecimal (negative : Bool) (digits : Nat) (exponent : Int) : Binary64 :=
  let size := exponent + (Text.ofNat digits).length
  if digits = 0 ∨ size < -400 then finite negative 0
  else if size > 400 then infinite negative
  else
    let units :=
      if exponent < 0 then roundUnits digits (tenTo exponent.natAbs)
      else roundUnits (digits * tenTo exponent.natAbs) 1
    if units < limit then finite negative units else infinite negative

/-- Whether a number is zero. -/
def isZero : Binary64 → Bool
  | finite _ units => units == 0
  | _ => false

end Binary64

end CssTrim
