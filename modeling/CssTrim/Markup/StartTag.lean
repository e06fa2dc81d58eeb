import CssTrim.Lexeme
import CssTrim.Markup.Reference
import CssTrim.Text.Recognizer

/-!
# Start tags

A start tag is a name and attributes.  An attribute is a name, which has to
stand behind a blank, a slash or a quote, and a value: in quotes, bare, or
missing.  Blanks and slashes separate attributes; a slash in front of the end of
the tag closes the element at once.

A tag that does not end in this way has no meaning, and a tag that the input
breaks off is incomplete.
-/

namespace CssTrim.Markup

open Text

/-- A start tag. -/
structure StartTag where
  /-- The name, in lower case. -/
  name : Text
  /-- Names in lower case, and values with references replaced. -/
  attributes : List (Text × Text)
  /-- Whether the tag closes its element too. -/
  selfClosing : Bool

/-- What the markup at some place holds. -/
inductive TagReading where
  | tag (t : StartTag)
  /-- Text that looks like a tag. -/
  | noTag
  /-- A value holds a reference with this many digits, which are too many. -/
  | longReference (count : Nat)

/-- The value of the last attribute with this name. -/
def StartTag.attribute? (t : StartTag) (name : Text) : Option Text :=
  (t.attributes.reverse.find? (·.1 == name)).map (·.2)

/-! ## Attributes -/

/-- A character that continues the name of a tag. -/
def isTagNameChar (c : Char) : Bool := !"\t\n\r\x0c />\x00".toList.contains c

/-- A character that starts the name of an attribute. -/
def startsName (c : Char) : Bool := !(isBlank c || c == '/' || c == '>')

/-- A character that continues the name of an attribute. -/
def continuesName (c : Char) : Bool := startsName c && c != '='

/-- Whether the name of an attribute may stand behind a character. -/
def precedesName (c : Char) : Bool := isQuote c || isBlank c || c == '/'

/-- Drops blanks, and slashes that do not stand before the end of the tag. -/
def skipSeparators : Text → Text
  | '/' :: '>' :: rest => '/' :: '>' :: rest
  | c :: rest => if isBlank c || c == '/' then skipSeparators rest else c :: rest
  | [] => []

/-- A bare value and what follows it. -/
def bareValue (t : Text) : Text × Text := run (fun c => !(c == '>' || isBlank c)) t

/-- Reads a value behind its equals signs, of which there are `signs`.  A quote that is not closed
opens no value: the value is then empty if a blank stands before the quote, and bare from the last
of several equals signs on. -/
def readValue? (signs : Nat) (t : Text) : Option (Text × Text) :=
  let body := trimStart t
  match body with
  | q :: rest =>
    if isQuote q then
      match upTo? (· == q) rest with
      | some found => some found
      | none =>
        if body.length < t.length then some ([], body)
        else if signs > 1 then some (bareValue ('=' :: t))
        else none
    else some (bareValue body)
  | [] => some ([], [])

/-- Reads equals signs and a value, with blanks around the signs. -/
def assignment? (t : Text) : Option (Text × Text) :=
  let (signs, rest) := run (· == '=') (trimStart t)
  if signs.isEmpty then none else readValue? signs.length rest

/-- Reads one attribute behind the character `before`: its name, its value as it is written, and
what follows the separators behind it. -/
def attribute? (before : Char) (t : Text) : Option ((Text × Text) × Text) :=
  match t with
  | c :: rest =>
    if precedesName before && startsName c then
      let (more, behind) := run continuesName rest
      match assignment? behind with
      | some (value, left) => some ((lower (c :: more), value), skipSeparators left)
      | none => some ((lower (c :: more), []), skipSeparators behind)
    else none
  | [] => none

/-- The character before what is left of a text that starts behind `before`. -/
def charBefore (before : Char) (t left : Text) : Char :=
  ((t.take (t.length - left.length)).getLast?).getD before

/-- Reads the attributes of a tag.  Every attribute takes at least one character. -/
def attributes (before : Char) (t : Text) : List (Text × Text) × Text :=
  match attribute? before t with
  | some (a, left) =>
    if left.length < t.length then (attributes (charBefore before t left) left).map (a :: ·) id
    else ([], t)
  | none => ([], t)
termination_by t.length

/-! ## Tags -/

/-- Reads a start tag, of which the opening bracket has been read.  The answer is nothing where the
tag is incomplete. -/
def readStartTag? (t : Text) : Option (TagReading × Text) :=
  let (name, behindName) := run isTagNameChar t
  let first := skipSeparators behindName
  let (found, left) := attributes (charBefore (name.getLast?.getD '<') behindName first) first
  let body :=
    if found.isEmpty then behindName.dropWhile fun c => isBlank c || c == '/' else trimStart left
  let finish :=
    match body with
    | '>' :: rest => some rest
    | '/' :: '>' :: rest => some rest
    | [] => none
    | c :: _ => if c == '/' || c == '=' || isAsciiLetter c then none else some body
  finish.map fun rest =>
    match found.findSome? fun a => longReference? a.2 with
    | some count => (.longReference count, rest)
    | none =>
      let resolved := found.map fun a => (a.1, resolve a.2)
      let ending := trim (left.take (left.length - rest.length))
      if ending = ['>'] then (.tag ⟨lower name, resolved, false⟩, rest)
      else if ending = ['/', '>'] then (.tag ⟨lower name, resolved, true⟩, rest)
      else (.noTag, rest)

end CssTrim.Markup
