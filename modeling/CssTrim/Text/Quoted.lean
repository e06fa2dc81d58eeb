import CssTrim.Text
import CssTrim.Text.Printable

/-!
# Quoted texts

The printed form of a text value: the text in single quotes, or in double
quotes when it holds a single quote and no double one.  A backslash, the quote
itself and every character that is not printable are escaped; line breaks and
tabs have short escapes, and any other character is escaped by its code in two,
four or eight hexadecimal digits.
-/

namespace CssTrim.Text

/-- The hexadecimal digit with this value. -/
def hexDigit (n : Nat) : Char := Char.ofNat (if n < 10 then n + '0'.toNat else n - 10 + 'a'.toNat)

/-- The last `width` hexadecimal digits of a number. -/
def hexDigits : (width : Nat) → Nat → Text
  | 0, _ => []
  | width + 1, n => hexDigits width (n / 16) ++ [hexDigit (n % 16)]

/-- The quote that a text is written in. -/
def quoteFor (t : Text) : Char :=
  if t.contains '\x27' ∧ !t.contains '\x22' then '\x22' else '\x27'

/-- The escaped form of a character inside these quotes. -/
def escapeChar (quote c : Char) : Text :=
  if c = '\\' ∨ c = quote then ['\\', c]
  else if c = '\n' then ['\\', 'n']
  else if c = '\r' then ['\\', 'r']
  else if c = '\t' then ['\\', 't']
  else if isPrintable c then [c]
  else if c.toNat ≤ 0xff then '\\' :: 'x' :: hexDigits 2 c.toNat
  else if c.toNat ≤ 0xffff then '\\' :: 'u' :: hexDigits 4 c.toNat
  else '\\' :: 'U' :: hexDigits 8 c.toNat

/-- The printed form of a text value. -/
def quoted (t : Text) : Text :=
  let quote := quoteFor t
  quote :: t.flatMap (escapeChar quote) ++ [quote]

end CssTrim.Text
