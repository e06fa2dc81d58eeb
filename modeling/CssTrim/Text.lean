import CssTrim.Text.Blank
import CssTrim.Text.Lowercase

/-!
# Texts

A text is a list of characters.  This module holds the operations on texts that
the rest of the library is written in.

* Splitting.  `splitOn` cuts a text at every character of a class and keeps the
  pieces between them, empty ones too; `words` are the pieces between blanks.
* Blanks.  `trim` takes the blanks off both ends, and `squeeze` also turns every
  run of blanks inside into one space.
* Searching.  `occursIn` and `before?` look for a text inside another one.
-/

namespace CssTrim

/-- A text, character by character. -/
abbrev Text := List Char

namespace Text

/-! ## Splitting and joining -/

/-- Cuts a text at every character of the class `p`.  There is always at least one piece. -/
def splitOn (p : Char → Bool) : Text → List Text
  | [] => [[]]
  | c :: rest =>
    if p c then [] :: splitOn p rest
    else (splitOn p rest).modifyHead (c :: ·)

/-- The texts with a separator between neighbours. -/
def joinWith (sep : Text) (ts : List Text) : Text := sep.intercalate ts

/-- The pieces of a text between its blanks. -/
def words (t : Text) : List Text := (splitOn isBlank t).filter (!·.isEmpty)

/-! ## Blanks -/

/-- Drops the blanks in front. -/
def trimStart (t : Text) : Text := t.dropWhile isBlank

/-- Drops the blanks at the end. -/
def trimEnd (t : Text) : Text := (t.reverse.dropWhile isBlank).reverse

/-- Drops the blanks at both ends. -/
def trim (t : Text) : Text := trimEnd (trimStart t)

/-- The words of a text with one space between neighbours. -/
def squeeze (t : Text) : Text := joinWith [' '] (words t)

/-- Whether a text holds blanks only. -/
def isBlankText (t : Text) : Bool := t.all isBlank

/-! ## Searching -/

/-- Whether `t` starts with `start`. -/
def startsWith (t start : Text) : Bool := start.isPrefixOf t

/-- Whether `t` ends with `ending`. -/
def endsWith (t ending : Text) : Bool := ending.isSuffixOf t

/-- What follows `start` in a text that starts with it. -/
def after? (start t : Text) : Option Text :=
  if start.isPrefixOf t then some (t.drop start.length) else none

/-- Whether `part` occurs in `t`. -/
def occursIn (part : Text) : Text → Bool
  | [] => part.isEmpty
  | c :: rest => part.isPrefixOf (c :: rest) || occursIn part rest

/-- The text before the first occurrence of `part`, and the text from it on. -/
def before? (part : Text) : Text → Option (Text × Text)
  | [] => if part.isEmpty then some ([], []) else none
  | c :: rest =>
    if part.isPrefixOf (c :: rest) then some ([], c :: rest)
    else (before? part rest).map fun (front, back) => (c :: front, back)

/-- Whether two texts agree up to case in ASCII letters. -/
def eqAsciiCase (s t : Text) : Bool := s.map Char.toLower == t.map Char.toLower

/-! ## Classes of ASCII characters -/

/-- An ASCII letter. -/
def isAsciiLetter (c : Char) : Bool := c.isAlpha

/-- An ASCII digit. -/
def isAsciiDigit (c : Char) : Bool := c.isDigit

/-- The value of a hexadecimal digit. -/
def hexValue? (c : Char) : Option Nat :=
  if '0' ≤ c ∧ c ≤ '9' then some (c.toNat - '0'.toNat)
  else if 'a' ≤ c ∧ c ≤ 'f' then some (c.toNat - 'a'.toNat + 10)
  else if 'A' ≤ c ∧ c ≤ 'F' then some (c.toNat - 'A'.toNat + 10)
  else none

/-- The number that a text of hexadecimal digits writes. -/
def hexNumber (digits : Text) : Nat :=
  digits.foldl (fun n c => n * 16 + (hexValue? c).getD 0) 0

/-! ## Numbers -/

/-- The decimal form of a natural number. -/
def ofNat (n : Nat) : Text := Nat.toDigits 10 n

/-- The decimal form of an integer, with a minus sign in front of a negative one. -/
def ofInt : Int → Text
  | .ofNat n => ofNat n
  | .negSucc n => '-' :: ofNat (n + 1)

end Text

end CssTrim
