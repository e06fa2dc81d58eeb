import CssTrim.Selector
import CssTrim.TokenSet

/-!
# Usage

What the documents of a project refer to: sets of classes, ids, tags, attribute
selectors, utility classes, and selectors as they were written.

A document is read into mentions, and a usage is a collection of mentions.  A
mention of a selector counts as one of the selector as written and one of each
of its simple selectors.
-/

namespace CssTrim

/-- What documents refer to. -/
structure Usage where
  classes : TokenSet := ∅
  ids : TokenSet := ∅
  tags : TokenSet := ∅
  /-- Attribute selectors, with their brackets. -/
  attributes : TokenSet := ∅
  /-- Classes that come from a utility framework. -/
  utilities : TokenSet := ∅
  /-- Selectors as they were written. -/
  raw : TokenSet := ∅
  deriving DecidableEq

/-- One thing that a document refers to. -/
inductive Mention where
  | className (t : Text)
  | id (t : Text)
  | tag (t : Text)
  | attr (t : Text)
  | utility (t : Text)
  | raw (t : Text)
  /-- A selector, which is mentioned as a whole and in its parts. -/
  | selector (t : Text)
  deriving DecidableEq

namespace Usage

/-- A usage without any mention. -/
def empty : Usage := {}

/-- Adds a simple selector.  Pseudo-classes are not recorded. -/
def addSimple (u : Usage) : SimpleSelector → Usage
  | .tag t => { u with tags := u.tags.insert t }
  | .className t => { u with classes := u.classes.insert t }
  | .id t => { u with ids := u.ids.insert t }
  | .attr t => { u with attributes := u.attributes.insert t }
  | .pseudo _ => u

/-- Adds a selector, as written and in its parts.  A blank selector adds nothing. -/
def addSelector (u : Usage) (selector : Text) : Usage :=
  let written := Text.squeeze selector
  if written.isEmpty then u
  else (Selector.simples written).foldl addSimple { u with raw := u.raw.insert written }

/-- Adds a mention. -/
def add (u : Usage) : Mention → Usage
  | .className t => { u with classes := u.classes.insert t }
  | .id t => { u with ids := u.ids.insert t }
  | .tag t => { u with tags := u.tags.insert t }
  | .attr t => { u with attributes := u.attributes.insert t }
  | .utility t => { u with utilities := u.utilities.insert t }
  | .raw t => { u with raw := u.raw.insert t }
  | .selector t => u.addSelector t

/-- The usage of a list of mentions. -/
def ofMentions (ms : List Mention) : Usage := ms.foldl add empty

/-- A usage that lists selectors as written. -/
def ofSelectors (selectors : List Text) : Usage :=
  { raw := .ofList (selectors.map Text.squeeze) }

/-- What either usage refers to. -/
def union (u v : Usage) : Usage where
  classes := u.classes.union v.classes
  ids := u.ids.union v.ids
  tags := u.tags.union v.tags
  attributes := u.attributes.union v.attributes
  utilities := u.utilities.union v.utilities
  raw := u.raw.union v.raw

/-- The number of entries in all sets. -/
def size (u : Usage) : Nat :=
  u.classes.size + u.ids.size + u.tags.size + u.attributes.size + u.utilities.size + u.raw.size

/-- Whether all sets are empty. -/
def isEmpty (u : Usage) : Bool :=
  u.classes.isEmpty && u.ids.isEmpty && u.tags.isEmpty && u.attributes.isEmpty &&
    u.utilities.isEmpty && u.raw.isEmpty

end Usage

end CssTrim
