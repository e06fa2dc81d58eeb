import CssTrim.Decimal.Shortest
import CssTrim.Text.Quoted

/-!
# Values

The values of a JSON document.  Fields of an object keep the order in which
they were first written.

* `Value.render` is the printed form of a value, in which texts are quoted.
* `Value.display` is the same with a text at the top shown as it is.
* `Value.isTruthy` says whether a value counts as present: null, false, zero and
  empty values do not.
-/

namespace CssTrim

/-- A value of a JSON document. -/
inductive Value where
  | null
  | bool (b : Bool)
  | int (n : Int)
  | float (x : Binary64)
  | text (t : Text)
  | list (items : List Value)
  | object (fields : List (Text × Value))

namespace Value

mutual

/-- The printed form of a value. -/
def render : Value → Text
  | null => "None".toList
  | bool true => "True".toList
  | bool false => "False".toList
  | int n => Text.ofInt n
  | float x => x.render
  | text t => Text.quoted t
  | list items => '[' :: renderItems items ++ [']']
  | object fields => '\x7b' :: renderFields fields ++ ['\x7d']

/-- The printed forms of values with commas between them. -/
def renderItems : List Value → Text
  | [] => []
  | [v] => render v
  | v :: w :: rest => render v ++ ',' :: ' ' :: renderItems (w :: rest)

/-- The printed forms of fields with commas between them. -/
def renderFields : List (Text × Value) → Text
  | [] => []
  | [(key, v)] => Text.quoted key ++ ':' :: ' ' :: render v
  | (key, v) :: f :: rest =>
    Text.quoted key ++ ':' :: ' ' :: render v ++ ',' :: ' ' :: renderFields (f :: rest)

end

/-- A text as it is, any other value in its printed form. -/
def display : Value → Text
  | text t => t
  | v => render v

/-- Whether a value counts as present. -/
def isTruthy : Value → Bool
  | null => false
  | bool b => b
  | int n => n != 0
  | float x => !x.isZero
  | text t => !t.isEmpty
  | list items => !items.isEmpty
  | object fields => !fields.isEmpty

/-- The values that a value is a collection of: the items of a list, the keys of an object, the
characters of a text.  No other value is a collection. -/
def items? : Value → Option (List Value)
  | list items => some items
  | object fields => some (fields.map fun (key, _) => text key)
  | text t => some (t.map fun c => text [c])
  | _ => none

/-- The value of the last field with this key. -/
def field? (key : Text) (fields : List (Text × Value)) : Option Value :=
  (fields.reverse.find? (·.1 == key)).map (·.2)

/-- Sets a field, at its place if there is one with this key and at the end if not. -/
def setField (key : Text) (v : Value) : List (Text × Value) → List (Text × Value)
  | [] => [(key, v)]
  | (k, w) :: rest => if k = key then (k, v) :: rest else (k, w) :: setField key v rest

end Value

end CssTrim
