import CssTrim.Text
import CssTrim.Text.DecimalDigit

/-!
# Integers in texts

An integer is written with the decimal digits of any script, with a sign in
front or without.  Single underscores may stand between digits, and blanks
around the whole.  More than 4300 digits are too many.
-/

namespace CssTrim.Text

/-- The largest number of digits that are read as an integer. -/
def digitLimit : Nat := 4300

/-- The wording of the fault that an integer has this many digits. -/
def digitLimitMessage (count : Nat) : Text :=
  "Exceeds the limit (4300 digits) for integer string conversion: value has ".toList ++
    ofNat count ++
    " digits; use sys.set_int_max_str_digits() to increase the limit".toList

/-- A blank that may stand beside an integer: any but the four separators of ASCII. -/
def isMargin (c : Char) : Bool := isBlank c && !(0x1c ≤ c.toNat && c.toNat ≤ 0x1f)

/-- The values of digits that may have single underscores between them. -/
def digitValues? : Text → Option (List Nat)
  | [] => none
  | [c] => (digitValue? c).map ([·])
  | c :: '_' :: rest => do
    let d ← digitValue? c
    let ds ← digitValues? rest
    pure (d :: ds)
  | c :: next :: rest => do
    let d ← digitValue? c
    let ds ← digitValues? (next :: rest)
    pure (d :: ds)

/-- The natural number that a text of digits writes. -/
def toNat? (t : Text) : Option Nat := do
  let ds ← digitValues? t
  guard (ds.length ≤ digitLimit)
  pure (ds.foldl (fun n d => n * 10 + d) 0)

/-- The integer that a text writes. -/
def toInt? (t : Text) : Option Int :=
  match ((t.dropWhile isMargin).reverse.dropWhile isMargin).reverse with
  | '-' :: digits => (toNat? digits).map fun n => -(n : Int)
  | '+' :: digits => (toNat? digits).map fun n => (n : Int)
  | digits => (toNat? digits).map fun n => (n : Int)

end CssTrim.Text
