import CssTrim.Markup.CharacterName
import CssTrim.Text.Integer

/-!
# Character references

The value of an attribute may hold references to characters, by number or by
name.  A number that is no character of a document stands for the replacement
character or for nothing; the numbers of one old code page stand for its
characters.

A name without a semicolon is read as the longest name it starts with, and what
is left of it stays.  A reference that cannot be read stays as it is.  A decimal
number has a limited number of digits.
-/

namespace CssTrim.Markup

/-- The characters with the numbers from 128 to 159 in the old code page. -/
def codePage : List Nat :=
  [0x20ac, 0x81, 0x201a, 0x192, 0x201e, 0x2026, 0x2020, 0x2021, 0x2c6, 0x2030, 0x160, 0x2039,
    0x152, 0x8d, 0x17d, 0x8f, 0x90, 0x2018, 0x2019, 0x201c, 0x201d, 0x2022, 0x2013, 0x2014,
    0x2dc, 0x2122, 0x161, 0x203a, 0x153, 0x9d, 0x17e, 0x178]

/-- Whether a number is left out of a document: controls and code points that are reserved. -/
def isLeftOut (n : Nat) : Bool :=
  (1 ≤ n && n ≤ 8) || n == 0xb || (0xe ≤ n && n ≤ 0x1f) || (0x7f ≤ n && n ≤ 0x9f) ||
    (0xfdd0 ≤ n && n ≤ 0xfdef) || n % 0x10000 ≥ 0xfffe

/-- The text that a number stands for. -/
def textOfNumber (n : Nat) : Text :=
  if n = 0 then ['\ufffd']
  else if n = 0xd then ['\r']
  else if 0x80 ≤ n ∧ n ≤ 0x9f then [Char.ofNat (codePage.getD (n - 0x80) 0)]
  else if !n.isValidChar then ['\ufffd']
  else if isLeftOut n then []
  else [Char.ofNat n]

/-- A character that may stand in a reference by name. -/
def isNameChar (c : Char) : Bool := !"\t\n\x0c <&#;".toList.contains c

/-- Drops a semicolon in front. -/
def dropSemicolon : Text → Text
  | ';' :: rest => rest
  | t => t

/-- The longest name of at least two and at most `limit` characters that a text starts with: the
characters it stands for, and what is left. -/
def longestName? (t : Text) : (limit : Nat) → Option (Text × Text)
  | 0 => none
  | limit + 1 =>
    let front := t.take (limit + 1)
    if limit = 0 then none
    else if unterminatedNames.contains front then
      (charactersNamed? front).map fun cs => (cs, t.drop (limit + 1))
    else longestName? t limit

/-- The text of a reference by name, with a semicolon behind it or without. -/
def textOfName (name : Text) (terminated : Bool) : Text :=
  let written := name ++ (if terminated then [';'] else [])
  let whole := if terminated then charactersNamed? name else none
  match whole with
  | some cs => cs
  | none =>
    match longestName? written (if terminated then name.length else written.length) with
    | some (cs, left) => cs ++ left
    | none => '&' :: written

/-- Reads a reference, of which the ampersand has been read: its text and what follows it. -/
def reference? (t : Text) : Option (Text × Text) :=
  match t with
  | '#' :: rest =>
    let digits := rest.takeWhile Text.isAsciiDigit
    if !digits.isEmpty then
      let n := digits.foldl (fun n c => n * 10 + (c.toNat - '0'.toNat)) 0
      some (textOfNumber n, dropSemicolon (rest.drop digits.length))
    else
      match rest with
      | x :: more =>
        let digits := more.takeWhile fun c => (Text.hexValue? c).isSome
        if (x = 'x' ∨ x = 'X') ∧ !digits.isEmpty then
          some (textOfNumber (Text.hexNumber digits), dropSemicolon (more.drop digits.length))
        else none
      | [] => none
  | _ =>
    let name := (t.take 32).takeWhile isNameChar
    if name.isEmpty then none
    else
      match t.drop name.length with
      | ';' :: rest => some (textOfName name true, rest)
      | rest => some (textOfName name false, rest)

/-- A text with its references replaced.  The next `skip` characters have been read as part of
one. -/
def resolveFrom : (skip : Nat) → Text → Text
  | _, [] => []
  | skip + 1, _ :: rest => resolveFrom skip rest
  | 0, c :: rest =>
    if c = '&' then
      match reference? rest with
      | some (image, left) => image ++ resolveFrom (rest.length - left.length) rest
      | none => c :: resolveFrom 0 rest
    else c :: resolveFrom 0 rest

/-- A text with its references replaced. -/
def resolve (t : Text) : Text := resolveFrom 0 t

/-- The number of digits in the first reference with too many of them. -/
def longReference? : Text → Option Nat
  | '&' :: '#' :: rest =>
    let count := (rest.takeWhile Text.isAsciiDigit).length
    if count > Text.digitLimit then some count else longReference? rest
  | _ :: rest => longReference? rest
  | [] => none

end CssTrim.Markup
