/-!
# Sorted tables of code point ranges

The character classes of this library are tables of inclusive ranges of code
points in increasing order.  A lookup stops at the first range that starts
above the code point, so a character near the start of a table is decided
without reading the rest of it.
-/

namespace CssTrim.Text

/-- An inclusive range of code points. -/
abbrev Range := Nat × Nat

/-- Whether `n` lies in one of the ranges of an increasing table. -/
def inRanges (n : Nat) : List Range → Bool
  | [] => false
  | (low, high) :: rest =>
    if n < low then false else if n ≤ high then true else inRanges n rest

end CssTrim.Text
