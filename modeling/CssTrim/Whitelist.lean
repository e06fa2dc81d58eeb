import CssTrim.Json.Reader
import CssTrim.Text.LineBreak
import CssTrim.Text.Utf8

/-!
# Whitelists

A whitelist is a JSON object with the classes, ids and selectors to keep.  Its
entries are entries of a safelist: a class is written with a dot, an id with a
number sign, and a selector as it is.  An entry that lists several classes
stands for all of them, and empty ids and selectors do not count.
-/

namespace CssTrim.Whitelist

/-- What is wrong with a whitelist that is passed over. -/
inductive Fault where
  | directory
  | malformed
  | notAnObject
  deriving DecidableEq

/-- Why reading a whitelist stops everything. -/
inductive Error where
  /-- The octets are no text. -/
  | undecodable
  /-- An integer has too many digits. -/
  | tooManyDigits (count : Nat)
  /-- There are too many lists and objects inside one another. -/
  | tooDeep
  /-- A string has half of a surrogate pair on its own, which is no character. -/
  | halfPair
  /-- What should list entries is neither a list, a text nor an object. -/
  | notACollection
  deriving DecidableEq

/-- The names of the fields. -/
def classesField : Text := "classes".toList

/-- The name of the field for ids. -/
def idsField : Text := "ids".toList

/-- The name of the field for selectors. -/
def selectorsField : Text := "selectors".toList

/-- The entries for one item of the classes. -/
def classEntries (item : Value) : List Text := (Text.words item.display).map ('.' :: ·)

/-- The entries for one item of the ids. -/
def idEntries (item : Value) : List Text :=
  if item.isTruthy then ['#' :: item.display] else []

/-- The entries for one item of the selectors. -/
def selectorEntries (item : Value) : List Text := if item.isTruthy then [item.display] else []

/-- The items of a field.  A field that is not there has none. -/
def itemsOf (key : Text) (fields : List (Text × Value)) : Except Error (List Value) :=
  match Value.field? key fields with
  | none => .ok []
  | some v =>
    match v.items? with
    | some items => .ok items
    | none => .error .notACollection

/-- The entries of an object with these fields. -/
def entriesOf (fields : List (Text × Value)) : Except Error (List Text) := do
  let classes ← itemsOf classesField fields
  let ids ← itemsOf idsField fields
  let selectors ← itemsOf selectorsField fields
  pure (classes.flatMap classEntries ++ ids.flatMap idEntries ++ selectors.flatMap selectorEntries)

/-- The document in the text of a file.  `depth` says how many lists and objects may stand inside
one another in a text. -/
def document (depth : Text → Nat) (t : Text) : Except Json.Error Value :=
  Json.read (depth t) (Text.unifyBreaks t)

/-- The entries of a whitelist, or what is wrong with it. -/
def read (depth : Text → Nat) (bytes : List UInt8) : Except Error (Except Fault (List Text)) :=
  match Text.Utf8.decode? bytes with
  | none => .error .undecodable
  | some t =>
    match document depth t with
    | .error .malformed => .ok (.error .malformed)
    | .error (.tooManyDigits count) => .error (.tooManyDigits count)
    | .error .tooDeep => .error .tooDeep
    | .error .halfPair => .error .halfPair
    | .ok (.object fields) => (entriesOf fields).map .ok
    | .ok _ => .ok (.error .notAnObject)

end CssTrim.Whitelist
