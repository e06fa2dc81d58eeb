import CssTrim.Usage.Literal

/-!
# What scripts mention

Classes and selectors in calls of the document interface: the operations of a
class list, the look-up by class, and the look-ups by selector.
-/

namespace CssTrim.Usage

open Text

/-- The arguments of an operation on a class list. -/
def classListCall : Recognizer Text := fun _ t => do
  let rest ← after? "classList.".toList t
  let opened ← oneOf?
    ["add(".toList, "remove(".toList, "toggle(".toList, "contains(".toList, "replace(".toList] rest
  upTo? (· == ')') opened

/-- The class list in a look-up by class. -/
def classLookup : Recognizer Text := fun _ t => do
  let opened ← after? "getElementsByClassName(".toList t
  let (value, rest) ← plainBetween? quotes (trimStart opened)
  guard (!value.isEmpty)
  pure (value, rest)

/-- The selector group in a look-up by selector. -/
def selectorLookup : Recognizer Text := fun _ t => do
  let opened ← oneOf?
    ["querySelectorAll(".toList, "querySelector(".toList, "closest(".toList, "matches(".toList] t
  let (value, rest) ← plainBetween? allQuotes (trimStart opened)
  guard (!value.isEmpty)
  pure (value, rest)

/-- The classes in the calls of a document. -/
def callClasses (t : Text) : List Text :=
  (classListCall.findAll t).flatMap literalClasses ++
    (classLookup.findAll t).flatMap classNames

/-- The selectors in the calls of a document. -/
def callSelectors (t : Text) : List Text :=
  (selectorLookup.findAll t).flatMap Selector.alternatives

end CssTrim.Usage
