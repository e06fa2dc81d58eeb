import CssTrim.Usage
import CssTrim.Text.Recognizer

/-!
# Class lists and string literals

Classes are written in lists, with blanks between them, inside quoted values and
string literals.

* `classNames` are the names in a list.  The holes of a template are cut out
  first, and stray braces are no names.
* `literals` are the string literals of an expression, in any of the three
  kinds of quotes.  A backslash takes the next character with it, as long as the
  literal is closed that way.
* `bracedText` is the text of an expression in braces.
-/

namespace CssTrim.Usage

open Text

/-- A hole in a template: a dollar sign and braces. -/
def hole : Recognizer Unit := fun _ t => do
  let (_, rest) ← upTo? (· == '\x7d') (← after? ['$', '\x7b'] t)
  pure ((), rest)

/-- Words of a class list that are braces of a template and no names. -/
def strayBraces : List Text :=
  [['\x7b'], ['\x7d'], ['\x7b', '\x7b'], ['\x7d', '\x7d']]

/-- The names in a class list. -/
def classNames (value : Text) : List Text :=
  (words (hole.replaceAll [' '] value)).filter (!strayBraces.contains ·)

/-- Reads the rest of a string literal, of which the opening quote has been read.  A backslash takes
the next character with it, unless the literal would not be closed then. -/
def closeLiteral? (quote : Char) : Text → Option (Text × Text)
  | [] => none
  | c :: rest =>
    if c = quote then some ([], rest)
    else
      let plain := fun () => (closeLiteral? quote rest).map (·.map (c :: ·) id)
      if c = '\\' then
        match rest with
        | d :: more =>
          match closeLiteral? quote more with
          | some p => some (p.map (c :: d :: ·) id)
          | none => plain ()
        | [] => none
      else plain ()

/-- A string literal. -/
def literal : Recognizer Text := fun _ t => do
  let (q, rest) ← one? allQuotes.contains t
  closeLiteral? q rest

/-- The string literals of a text. -/
def literals (t : Text) : List Text := literal.findAll t

/-- The text up to the brace that closes an expression, inside this many further braces.  Without
such a brace it is all of the text. -/
def bracedText (depth : Nat) : Text → Text
  | [] => []
  | c :: rest =>
    if c = '\x7b' then c :: bracedText (depth + 1) rest
    else if c = '\x7d' then
      match depth with
      | 0 => []
      | outer + 1 => c :: bracedText outer rest
    else c :: bracedText depth rest

/-- The classes in the string literals of an expression. -/
def literalClasses (t : Text) : List Text := (literals t).flatMap classNames

end CssTrim.Usage
