import CssTrim.Text
import CssTrim.Text.Word

/-!
# Finding phrases in a text

A recognizer says whether a phrase starts at the front of a text, given the
character before it, and what is left behind the phrase.  `findAll` looks for
the phrases of a text from left to right; after a phrase it goes on behind it,
so phrases do not overlap.  `substitute` puts the images of the phrases in their
places.

The readers below it are the parts that recognizers are made of.
-/

namespace CssTrim

/-- What a phrase holds and what follows it, for a phrase at the front of a text.  The first
argument is the character before the text, if there is one. -/
abbrev Recognizer (α : Type) := Option Char → Text → Option (α × Text)

namespace Recognizer

/-- The characters outside phrases and the phrases, in order.  The next `skip` characters belong to
a phrase already found. -/
def marks {α : Type} (r : Recognizer α) : (before : Option Char) → (skip : Nat) → Text →
    List (Char ⊕ α)
  | _, _, [] => []
  | _, skip + 1, c :: rest => marks r (some c) skip rest
  | before, 0, c :: rest =>
    match r before (c :: rest) with
    | some (a, left) => .inr a :: marks r (some c) (rest.length - left.length) rest
    | none => .inl c :: marks r (some c) 0 rest

/-- The phrases of a text, from left to right. -/
def findAll {α : Type} (r : Recognizer α) (t : Text) : List α :=
  (marks r none 0 t).filterMap Sum.getRight?

/-- The text with the image of every phrase in its place. -/
def substitute {α : Type} (r : Recognizer α) (image : α → Text) (t : Text) : Text :=
  (marks r none 0 t).flatMap fun
    | .inl c => [c]
    | .inr a => image a

/-- The text with every phrase replaced by the same text. -/
def replaceAll {α : Type} (r : Recognizer α) (image : Text) (t : Text) : Text :=
  r.substitute (fun _ => image) t

end Recognizer

namespace Text

/-! ## Readers -/

/-- Reads one character of a class. -/
def one? (p : Char → Bool) : Text → Option (Char × Text)
  | c :: rest => if p c then some (c, rest) else none
  | [] => none

/-- Reads a run of characters of a class, which may be empty. -/
def run (p : Char → Bool) (t : Text) : Text × Text := (t.takeWhile p, t.dropWhile p)

/-- Reads a run of characters of a class, which may not be empty. -/
def run? (p : Char → Bool) (t : Text) : Option (Text × Text) :=
  let (front, back) := run p t
  if front.isEmpty then none else some (front, back)

/-- Reads up to the first character of a class and takes that character too. -/
def upTo? (stop : Char → Bool) (t : Text) : Option (Text × Text) :=
  match t.dropWhile (!stop ·) with
  | _ :: rest => some (t.takeWhile (!stop ·), rest)
  | [] => none

/-- Reads one of several words. -/
def oneOf? (ws : List Text) (t : Text) : Option Text := ws.findSome? fun w => after? w t

/-- Reads a value between two equal quotes out of `quotes`.  The value runs to the next such
quote. -/
def between? (quotes : Text) : Text → Option (Text × Text)
  | q :: rest => if quotes.contains q then upTo? (· == q) rest else none
  | [] => none

/-- Reads a value between two equal quotes out of `quotes`.  No quote may stand in the value. -/
def plainBetween? (quotes : Text) : Text → Option (Text × Text)
  | q :: rest =>
    if quotes.contains q then
      match rest.dropWhile (!quotes.contains ·) with
      | c :: after => if c = q then some (rest.takeWhile (!quotes.contains ·), after) else none
      | [] => none
    else none
  | [] => none

/-- Reads an equals sign with blanks around it. -/
def equals? (t : Text) : Option Text := (after? ['='] (trimStart t)).map trimStart

/-- The single and the double quote. -/
def quotes : Text := ['\x22', '\x27']

/-- The quotes and the backquote. -/
def allQuotes : Text := ['\x22', '\x27', '\x60']

/-- Whether there is no character of a word on one side of a phrase. -/
def noWordChar (beside : Option Char) : Bool :=
  match beside with
  | some c => !isWordChar c
  | none => true

end Text

end CssTrim
