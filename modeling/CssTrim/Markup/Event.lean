import CssTrim.Markup.StartTag

/-!
# Tags of a document

A document is scanned for start tags and end tags.  Comments, declarations,
instructions and text are passed over.

* Inside a script or a style sheet only its end tag counts.
* Markup that the input breaks off is text up to the next closing bracket, or up
  to the next opening one.
* The scan has two passes.  The first stops at markup that is broken off or at a
  reference that cannot be read; the second goes on from there, and where it
  stops the rest is text.

A marked section must start with one of a few words, and a decimal reference has
a limited number of digits.  A document with any other one is rejected.
-/

namespace CssTrim.Markup

open Text

/-- A tag of a document. -/
inductive Event where
  /-- A start tag and the line it stands on. -/
  | opens (tag : StartTag) (line : Nat)
  /-- An end tag. -/
  | closes (name : Text)

/-- Why a document is not read. -/
inductive Rejection where
  | unknownSection
  /-- A reference has this many digits, which are too many. -/
  | longReference (count : Nat)
  deriving DecidableEq

/-! ## Ends of markup -/

/-- What follows the first closing bracket. -/
def afterBracket? (t : Text) : Option Text := (upTo? (· == '>') t).map (·.2)

/-- What follows the end of a comment: two hyphens, blanks and a closing bracket. -/
def afterComment? : Text → Option Text
  | [] => none
  | '-' :: '-' :: rest =>
    match after? ['>'] (trimStart rest) with
    | some left => some left
    | none => afterComment? ('-' :: rest)
  | _ :: rest => afterComment? rest

/-- What follows the end of a marked section: this many square brackets and a closing bracket, with
blanks between them. -/
def sectionEnd? : (brackets : Nat) → Text → Option Text
  | 0, t => after? ['>'] t
  | n + 1, t => (after? [']'] t).bind fun rest => sectionEnd? n (trimStart rest)

/-- What follows the first end of a marked section. -/
def afterSection? (brackets : Nat) : Text → Option Text
  | [] => none
  | c :: rest =>
    match sectionEnd? brackets (c :: rest) with
    | some left => some left
    | none => afterSection? brackets rest

/-- Words of marked sections that end with two square brackets. -/
def doubleSections : List Text :=
  ["temp".toList, "cdata".toList, "ignore".toList, "include".toList, "rcdata".toList]

/-- Words of marked sections that end with one square bracket. -/
def singleSections : List Text := ["if".toList, "else".toList, "endif".toList]

/-- A character that continues the word of a marked section. -/
def isSectionChar (c : Char) : Bool := c.isAlphanum || c == '-' || c == '_' || c == '.'

/-- Reads a marked section, of which the opening has been read. -/
def skipSection (t : Text) : Except Rejection (Option Text) :=
  match t with
  | [] => .ok none
  | c :: rest =>
    if !isAsciiLetter c then .error .unknownSection
    else if (trimStart (rest.dropWhile isSectionChar)).isEmpty then .ok none
    else
      let word : Text := lower (c :: rest.takeWhile isSectionChar)
      if doubleSections.contains word then .ok (afterSection? 2 t)
      else if singleSections.contains word then .ok (afterSection? 1 t)
      else .error .unknownSection

/-! ## One step of the scan -/

/-- What a step of the scan does. -/
inductive Step where
  /-- Goes on behind some markup, inside a raw element if one is named. -/
  | next (events : List Event) (raw : Option Text) (rest : Text)
  /-- The markup is broken off. -/
  | incomplete
  /-- This pass of the scan stops here. -/
  | stops (rest : Text)

/-- Elements whose content is not markup. -/
def rawElements : List Text := ["script".toList, "style".toList]

/-- A character that continues the plain name of an end tag. -/
def isEndNameChar (c : Char) : Bool :=
  c.isAlphanum || c == '-' || c == '.' || c == ':' || c == '_'

/-- The name in an end tag that holds nothing but its name, of which the opening has been read. -/
def plainEndName? (t : Text) : Option Text :=
  match trimStart t with
  | c :: rest =>
    if isAsciiLetter c then
      (after? ['>'] (trimStart (rest.dropWhile isEndNameChar))).map fun _ =>
        lower (c :: rest.takeWhile isEndNameChar)
    else none
  | [] => none

/-- The name in any other end tag. -/
def looseEndName? (t : Text) : Option Text :=
  match t with
  | c :: _ => if isAsciiLetter c then some (lower (t.takeWhile isTagNameChar)) else none
  | [] => none

/-- Reads an end tag, of which the opening has been read. -/
def endTag (raw : Option Text) (t : Text) : Step :=
  match afterBracket? t with
  | none => .incomplete
  | some rest =>
    match plainEndName? t, raw with
    | some name, none => .next [.closes name] none rest
    | some name, some element =>
      if name = element then .next [.closes name] none rest else .next [] raw rest
    | none, some _ => .next [] raw rest
    | none, none => .next ((looseEndName? t).map Event.closes).toList none rest

/-- Reads a start tag on a line, of which the opening bracket has been read. -/
def startTag (line : Nat) (t : Text) : Except Rejection Step :=
  match readStartTag? t with
  | none => .ok .incomplete
  | some (.noTag, rest) => .ok (.next [] none rest)
  | some (.longReference count, _) => .error (.longReference count)
  | some (.tag found, rest) =>
    let raw := if !found.selfClosing ∧ rawElements.contains found.name then some found.name else none
    .ok (.next [.opens found line] raw rest)

/-- Goes on behind some markup, if it is complete. -/
def skipTo (rest : Option Text) : Step :=
  match rest with
  | some left => .next [] none left
  | none => .incomplete

/-- Reads markup that starts with an opening bracket, which has been read. -/
def markup (line : Nat) (t : Text) : Except Rejection Step :=
  match t with
  | [] => .ok (.stops ['<'])
  | '/' :: rest => .ok (endTag none rest)
  | '!' :: '-' :: '-' :: rest => .ok (skipTo (afterComment? rest))
  | '?' :: rest => .ok (skipTo (afterBracket? rest))
  | '!' :: '[' :: rest => (skipSection rest).map skipTo
  | '!' :: rest => .ok (skipTo (afterBracket? rest))
  | c :: _ => if isAsciiLetter c then startTag line t else .ok (.next [] none t)

/-- Whether a reference by number is hexadecimal. -/
def isHexReference (t : Text) : Bool := t.head? == some 'x' || t.head? == some 'X'

/-- The digits of a reference by number, of which the number sign has been read, and what follows
them. -/
def numberDigits (t : Text) : Text × Text :=
  if isHexReference t then run (fun c => (hexValue? c).isSome) (t.drop 1) else run isAsciiDigit t

/-- Reads a reference in text, of which the ampersand has been read. -/
def reference (t : Text) : Except Rejection Step :=
  match t with
  | [] => .ok (.stops ['&'])
  | '#' :: rest =>
    let broken : Step := .stops (if rest.contains ';' then rest else '&' :: t)
    let (digits, left) := numberDigits rest
    if digits.isEmpty || left.head?.all fun c => (hexValue? c).isSome then .ok broken
    else if !isHexReference rest && digits.length > digitLimit then
      .error (.longReference digits.length)
    else .ok (.next [] none (dropSemicolon left))
  | c :: rest =>
    if isAsciiLetter c then
      match rest.dropWhile fun d => d.isAlphanum || d == '-' || d == '.' with
      | [] => .ok (.stops ('&' :: t))
      | left => .ok (.next [] none (dropSemicolon left))
    else .ok (.next [] none t)

/-- Whether the end tag of a raw element is at the front of a text. -/
def isEndTagOf (element t : Text) : Bool :=
  match t with
  | '<' :: '/' :: rest =>
    let name := trimStart rest
    eqAsciiCase (name.take element.length) element &&
      (trimStart (name.drop element.length)).head? == some '>'
  | _ => false

/-- The text from the end tag of a raw element on. -/
def findEndTag (element : Text) : Text → Option Text
  | [] => none
  | c :: rest => if isEndTagOf element (c :: rest) then some (c :: rest) else findEndTag element rest

/-- The line of what is left of a document with this many line breaks. -/
def lineOf (breaks : Nat) (rest : Text) : Nat := 1 + breaks - rest.count '\n'

/-- One step of the scan, inside a raw element if one is named. -/
def step (breaks : Nat) (raw : Option Text) (t : Text) : Except Rejection (Step × Text) :=
  match raw with
  | some element =>
    match findEndTag element t with
    | some found => .ok (endTag raw (found.drop 2), found)
    | none => .ok (.stops t, t)
  | none =>
    match t.dropWhile fun c => c != '<' && c != '&' with
    | [] => .ok (.stops [], [])
    | '<' :: rest => (markup (lineOf breaks ('<' :: rest)) rest).map fun s => (s, '<' :: rest)
    | c :: rest => (reference rest).map fun s => (s, c :: rest)

/-- What is left behind markup that is broken off: what follows the next closing bracket, or the
next opening bracket and what follows it. -/
def skipBroken (t : Text) : Text :=
  match afterBracket? (t.drop 1) with
  | some rest => rest
  | none =>
    match (t.drop 1).dropWhile (· != '<') with
    | [] => t.drop 1
    | rest => rest

/-- The tags of a text, in the first pass or the last.  Every step takes a character or ends a
pass. -/
def eventsFrom (breaks : Nat) (last : Bool) (raw : Option Text) (t : Text) :
    Except Rejection (List Event) :=
  match step breaks raw t with
  | .error e => .error e
  | .ok (.next events inside rest, _) =>
    if rest.length < t.length then (eventsFrom breaks last inside rest).map (events ++ ·)
    else .ok events
  | .ok (.stops rest, _) =>
    if last then .ok []
    else if rest.length ≤ t.length then eventsFrom breaks true raw rest
    else .ok []
  | .ok (.incomplete, found) =>
    if last then
      if (skipBroken found).length < t.length then eventsFrom breaks true raw (skipBroken found)
      else .ok []
    else if found.length ≤ t.length then eventsFrom breaks true raw found
    else .ok []
termination_by 2 * t.length + (if last then 0 else 1)
decreasing_by all_goals grind

/-- The tags of a document. -/
def events (document : Text) : Except Rejection (List Event) :=
  eventsFrom (document.count '\n') false none document

end CssTrim.Markup
