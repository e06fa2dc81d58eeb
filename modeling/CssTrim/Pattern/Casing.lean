import CssTrim.Text

/-!
# Characters that differ in case only

A pattern may ignore case.  Two characters then agree if their lower case forms
are equal or share an upper case form; the second happens for a few letters
only, which are in a table.
-/

namespace CssTrim.Pattern

open Text

/-- Lower case letters, each with the other lower case letters of the same upper case. -/
def sharedUpperCase : List (Nat × List Nat) := [
  (0x69, [0x131]), (0x73, [0x17f]), (0xb5, [0x3bc]),
  (0x131, [0x69]), (0x17f, [0x73]), (0x345, [0x3b9, 0x1fbe]),
  (0x390, [0x1fd3]), (0x3b0, [0x1fe3]), (0x3b2, [0x3d0]),
  (0x3b5, [0x3f5]), (0x3b8, [0x3d1]), (0x3b9, [0x345, 0x1fbe]),
  (0x3ba, [0x3f0]), (0x3bc, [0xb5]), (0x3c0, [0x3d6]),
  (0x3c1, [0x3f1]), (0x3c2, [0x3c3]), (0x3c3, [0x3c2]),
  (0x3c6, [0x3d5]), (0x3d0, [0x3b2]), (0x3d1, [0x3b8]),
  (0x3d5, [0x3c6]), (0x3d6, [0x3c0]), (0x3f0, [0x3ba]),
  (0x3f1, [0x3c1]), (0x3f5, [0x3b5]), (0x432, [0x1c80]),
  (0x434, [0x1c81]), (0x43e, [0x1c82]), (0x441, [0x1c83]),
  (0x442, [0x1c84, 0x1c85]), (0x44a, [0x1c86]), (0x463, [0x1c87]),
  (0x1c80, [0x432]), (0x1c81, [0x434]), (0x1c82, [0x43e]),
  (0x1c83, [0x441]), (0x1c84, [0x442, 0x1c85]), (0x1c85, [0x442, 0x1c84]),
  (0x1c86, [0x44a]), (0x1c87, [0x463]), (0x1c88, [0xa64b]),
  (0x1e61, [0x1e9b]), (0x1e9b, [0x1e61]), (0x1fbe, [0x345, 0x3b9]),
  (0x1fd3, [0x390]), (0x1fe3, [0x3b0]), (0xa64b, [0x1c88]),
  (0xfb05, [0xfb06]), (0xfb06, [0xfb05])]

/-- The lower case of a code point, as a single code point. -/
def lowerCode (n : Nat) : Nat := if n = 0x130 then 'i'.toNat else lowerIn n lowercaseRuns

/-- The lower case letters that agree with a code point when case is ignored. -/
def foldings (n : Nat) : List Nat :=
  let low := lowerCode n
  low :: ((sharedUpperCase.find? (·.1 == low)).map (·.2)).getD []

/-- The code points that a run maps to `low`. -/
def preimage (low : Nat) (run : CaseRun) : Option Nat :=
  let n := ((low : Int) - run.shift).toNat
  if run.first ≤ n ∧ n ≤ run.last ∧ (n - run.first) % run.step = 0 then some n else none

/-- The code points whose lower case is `low`. -/
def variants (low : Nat) : List Nat :=
  (if lowerCode low = low then [low] else []) ++ (if low = 'i'.toNat then [0x130] else []) ++
    lowercaseRuns.filterMap (preimage low)

/-- Whether two code points agree when case is ignored. -/
def sameFolding (m n : Nat) : Bool := (foldings m).contains (lowerCode n)

/-- Whether a code point agrees with one in a range when case is ignored. -/
def foldsIntoRange (low high n : Nat) : Bool :=
  ((foldings n).flatMap variants).any fun m => low ≤ m && m ≤ high

/-- The lower case of a code point, as far as ASCII has it. -/
def asciiLowerCode (n : Nat) : Nat := if 0x41 ≤ n ∧ n ≤ 0x5a then n + 0x20 else n

/-- The code points that agree with one when case is ignored in ASCII. -/
def asciiVariants (n : Nat) : List Nat :=
  let low := asciiLowerCode n
  if 0x61 ≤ low ∧ low ≤ 0x7a then [low, low - 0x20] else [n]

end CssTrim.Pattern
