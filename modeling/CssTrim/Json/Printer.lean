import CssTrim.Value
import CssTrim.Text.Quoted

/-!
# Writing JSON

The form in which reports are written: every item and field on a line of its
own, indented by two spaces a level, and empty lists and objects in one piece.
Characters outside ASCII are written as they are.
-/

namespace CssTrim.Json

/-- The form of a character inside a JSON string. -/
def escapeChar (c : Char) : Text :=
  if c = '\x22' ∨ c = '\\' then ['\\', c]
  else if c = '\n' then ['\\', 'n']
  else if c = '\r' then ['\\', 'r']
  else if c = '\t' then ['\\', 't']
  else if c = '\x08' then ['\\', 'b']
  else if c = '\x0c' then ['\\', 'f']
  else if c.toNat < 0x20 then '\\' :: 'u' :: Text.hexDigits 4 c.toNat
  else [c]

/-- A text as a JSON string. -/
def string (t : Text) : Text := '\x22' :: t.flatMap escapeChar ++ ['\x22']

/-- A line break and the indentation of a level. -/
def newLine (level : Nat) : Text := '\n' :: List.replicate (2 * level) ' '

mutual

/-- A value that starts at this level of indentation. -/
def printAt (level : Nat) : Value → Text
  | .null => "null".toList
  | .bool true => "true".toList
  | .bool false => "false".toList
  | .int n => Text.ofInt n
  | .float .nan => "NaN".toList
  | .float (.infinite negative) => (if negative then "-Infinity" else "Infinity").toList
  | .float x => x.render
  | .text t => string t
  | .list [] => "[]".toList
  | .list (v :: rest) =>
    '[' :: printItems (level + 1) (v :: rest) ++ newLine level ++ [']']
  | .object [] => ['\x7b', '\x7d']
  | .object (f :: rest) =>
    '\x7b' :: printFields (level + 1) (f :: rest) ++ newLine level ++ ['\x7d']

/-- Items, each on its own line. -/
def printItems (level : Nat) : List Value → Text
  | [] => []
  | [v] => newLine level ++ printAt level v
  | v :: w :: rest => newLine level ++ printAt level v ++ ',' :: printItems level (w :: rest)

/-- Fields, each on its own line. -/
def printFields (level : Nat) : List (Text × Value) → Text
  | [] => []
  | [(key, v)] => newLine level ++ string key ++ ':' :: ' ' :: printAt level v
  | (key, v) :: f :: rest =>
    newLine level ++ string key ++ ':' :: ' ' :: printAt level v ++
      ',' :: printFields level (f :: rest)

end

/-- A value as a report. -/
def print (v : Value) : Text := printAt 0 v

end CssTrim.Json
