import CssTrim.Markup.Event

/-!
# Elements of the body

The elements inside the first body of a document, in document order.

An end tag closes the innermost open element of its name together with all that
is open inside it, and does nothing where none is open.  A void element closes
at once; in return one later end tag of its name is ignored.

This is one way to read a page, `readPage`.  What is said of pages elsewhere does
not depend on it: a `PageReader` is any way to come from a page to its body.
-/

namespace CssTrim.Markup

open Text

/-- Elements that have no content. -/
def voidElements : List Text :=
  ["area base basefont bgsound br col command embed frame hr image img input isindex keygen link",
    "menuitem meta nextid param source spacer track wbr"].flatMap fun line => words line.toList

/-- The elements that are open, innermost first, and the names of void elements whose end tag has
not been seen. -/
structure OpenElements where
  names : List Text := []
  voided : List Text := []

namespace OpenElements

/-- Closes the innermost element of a name, if there is one. -/
def close (s : OpenElements) (name : Text) : OpenElements :=
  if s.names.contains name then { s with names := (s.names.dropWhile (· != name)).drop 1 } else s

/-- What is open behind an end tag. -/
def afterEndTag (s : OpenElements) (name : Text) : OpenElements :=
  if s.voided.contains name then { s with voided := s.voided.erase name } else s.close name

/-- What is open behind a start tag. -/
def afterStartTag (s : OpenElements) (tag : StartTag) : OpenElements :=
  let inside := { s with names := tag.name :: s.names }
  if tag.selfClosing then inside.afterEndTag tag.name
  else if voidElements.contains tag.name then { s with voided := s.voided ++ [tag.name] }
  else inside

/-- What is open behind a tag. -/
def after (s : OpenElements) : Event → OpenElements
  | .opens tag _ => s.afterStartTag tag
  | .closes name => s.afterEndTag name

end OpenElements

/-- The start tags inside an element with this many open elements around it, each with its line. -/
def insideOf (depth : Nat) (s : OpenElements) : List Event → List (StartTag × Nat)
  | [] => []
  | e :: rest =>
    if s.names.length ≤ depth then []
    else
      match e with
      | .opens tag line => (tag, line) :: insideOf depth (s.after e) rest
      | .closes _ => insideOf depth (s.after e) rest

/-- The first body of a page. -/
structure Body where
  /-- The line that it starts on. -/
  line : Nat
  /-- The start tags inside it, in document order, with their lines. -/
  tags : List (StartTag × Nat)

/-- The first body behind some open elements, if there is one. -/
def bodyOf (s : OpenElements) : List Event → Option Body
  | [] => none
  | e :: rest =>
    match e with
    | .opens tag line =>
      if tag.name = "body".toList then some ⟨line, insideOf s.names.length (s.after e) rest⟩
      else bodyOf (s.after e) rest
    | .closes _ => bodyOf (s.after e) rest

/-- A way to read pages.  It may reject a page, or find no body in it. -/
abbrev PageReader := Text → Except Rejection (Option Body)

/-- Reads a page by its tags. -/
def readPage : PageReader := fun page => (events page).map (bodyOf {})

end CssTrim.Markup
