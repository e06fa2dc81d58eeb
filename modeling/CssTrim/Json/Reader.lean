import CssTrim.Text.Integer
import CssTrim.Value

/-!
# Reading JSON

A reader for JSON documents.  It follows the standard with two liberties: the
names `NaN`, `Infinity` and `-Infinity` are numbers, and of fields with the same
key the last one counts.  Control characters in a string must be escaped, and
only the four blanks of the standard may stand between tokens.

A number without fraction and exponent is an integer of any size up to 4300
digits; any other number is rounded to double precision.

Lists and objects are read one inside the other as deep as there is room for.  An
escape for half of a surrogate pair on its own is no character, and a text that
has one is not read.
-/

namespace CssTrim.Json

/-- Why a text is not read. -/
inductive Error where
  /-- The text is no JSON document. -/
  | malformed
  /-- An integer has too many digits. -/
  | tooManyDigits (count : Nat)
  /-- There are too many lists and objects inside one another. -/
  | tooDeep
  /-- A string has half of a surrogate pair on its own. -/
  | halfPair
  deriving DecidableEq

/-- Drops the blanks of the standard. -/
def skipBlanks (t : Text) : Text :=
  t.dropWhile fun c => c == ' ' || c == '\t' || c == '\n' || c == '\r'

/-! ## Strings -/

/-- The code unit in four hexadecimal digits. -/
def readUnit : Text → Option (Nat × Text)
  | a :: b :: c :: d :: rest =>
    if [a, b, c, d].all fun x => (Text.hexValue? x).isSome then
      some (Text.hexNumber [a, b, c, d], rest)
    else none
  | _ => none

/-- The character of a code unit, unless it is half of a pair. -/
def charOfUnit (n : Nat) : Except Error Char :=
  if n.isValidChar then .ok (Char.ofNat n) else .error .halfPair

/-- The character of a pair of code units. -/
def charOfPair (high low : Nat) : Char :=
  Char.ofNat (0x10000 + (high - 0xd800) * 0x400 + (low - 0xdc00))

/-- The character that a one-letter escape stands for. -/
def shortEscape? (c : Char) : Option Char :=
  if c = '\x22' ∨ c = '\\' ∨ c = '/' then some c
  else if c = 'b' then some '\x08'
  else if c = 'f' then some '\x0c'
  else if c = 'n' then some '\n'
  else if c = 'r' then some '\r'
  else if c = 't' then some '\t'
  else none

/-- Reads the rest of a string, of which the opening quote has been read.  Every step takes at
least one character, so `fuel` need not exceed the length. -/
def readString : (fuel : Nat) → Text → Except Error (Text × Text)
  | 0, _ => .error .malformed
  | _ + 1, [] => .error .malformed
  | _ + 1, '\x22' :: rest => .ok ([], rest)
  | fuel + 1, '\\' :: 'u' :: rest =>
    match readUnit rest with
    | none => .error .malformed
    | some (high, after) =>
      let lone := do
        let (t, behind) ← readString fuel after
        pure ((← charOfUnit high) :: t, behind)
      if 0xd800 ≤ high ∧ high ≤ 0xdbff then
        match after with
        | '\\' :: 'u' :: second =>
          match readUnit second with
          | some (low, behind) =>
            if 0xdc00 ≤ low ∧ low ≤ 0xdfff then
              (readString fuel behind).map (·.map (charOfPair high low :: ·) id)
            else lone
          | none => .error .malformed
        | _ => lone
      else lone
  | fuel + 1, '\\' :: c :: rest =>
    match shortEscape? c with
    | none => .error .malformed
    | some d => (readString fuel rest).map (·.map (d :: ·) id)
  | fuel + 1, c :: rest =>
    if c.toNat < 0x20 then .error .malformed
    else (readString fuel rest).map (·.map (c :: ·) id)

/-! ## Numbers -/

/-- The digits at the start of a text, and what follows them. -/
def spanDigits (t : Text) : Text × Text :=
  (t.takeWhile Text.isAsciiDigit, t.dropWhile Text.isAsciiDigit)

/-- The number that decimal digits write. -/
def decimalNumber (digits : Text) : Nat :=
  digits.foldl (fun n c => n * 10 + (c.toNat - '0'.toNat)) 0

/-- The fraction of a number: its digits and what follows them. -/
def readFraction : Text → Option (Text × Text)
  | '.' :: rest =>
    let (digits, after) := spanDigits rest
    if digits.isEmpty then none else some (digits, after)
  | _ => none

/-- The exponent of a number and what follows it. -/
def readExponent : Text → Option (Int × Text)
  | e :: rest =>
    if e = 'e' ∨ e = 'E' then
      let (negative, written) : Bool × Text :=
        match rest with
        | '-' :: more => (true, more)
        | '+' :: more => (false, more)
        | _ => (false, rest)
      let (digits, after) := spanDigits written
      if digits.isEmpty then none
      else
        let n : Int := decimalNumber digits
        some (if negative then -n else n, after)
    else none
  | [] => none

/-- The digits before the point: a zero, or digits that start with no zero. -/
def readWhole (t : Text) : Option (Text × Text) :=
  match t with
  | '0' :: rest => some (['0'], rest)
  | _ =>
    let (digits, after) := spanDigits t
    if digits.isEmpty then none else some (digits, after)

/-- Reads the digits of a number behind its sign. -/
def readMagnitude (negative : Bool) (t : Text) : Except Error (Value × Text) :=
  match readWhole t with
  | none => .error .malformed
  | some (whole, behindWhole) =>
    let fraction := readFraction behindWhole
    let behindFraction := (fraction.map (·.2)).getD behindWhole
    let exponent := readExponent behindFraction
    let behind := (exponent.map (·.2)).getD behindFraction
    if fraction.isNone ∧ exponent.isNone then
      if whole.length > Text.digitLimit then .error (.tooManyDigits whole.length)
      else
        let n : Int := decimalNumber whole
        .ok (.int (if negative then -n else n), behind)
    else
      let places := (fraction.map (·.1)).getD []
      let power := (exponent.map (·.1)).getD 0 - places.length
      .ok (.float (.ofDecimal negative (decimalNumber (whole ++ places)) power), behind)

/-- The values that are written as names. -/
def names : List (Text × Value) :=
  [("null".toList, .null), ("true".toList, .bool true), ("false".toList, .bool false),
    ("NaN".toList, .float .nan), ("Infinity".toList, .float (.infinite false)),
    ("-Infinity".toList, .float (.infinite true))]

/-- Reads a value that is written as a name. -/
def readName (t : Text) : Option (Value × Text) :=
  names.findSome? fun (name, v) => (Text.after? name t).map fun rest => (v, rest)

/-- Reads a value that is neither a string, a list nor an object. -/
def readScalar (t : Text) : Except Error (Value × Text) :=
  match readName t with
  | some found => .ok found
  | none =>
    match t with
    | '-' :: rest => readMagnitude true rest
    | _ => readMagnitude false t

/-! ## Documents -/

mutual

/-- Reads one value, with lists and objects inside one another up to this depth.  Every step takes
at least one character, so `fuel` need not exceed the length. -/
def readValue (depth : Nat) : (fuel : Nat) → Text → Except Error (Value × Text)
  | 0, _ => .error .malformed
  | fuel + 1, t =>
    match t, depth with
    | '\x22' :: rest, _ => (readString (rest.length + 1) rest).map (·.map .text id)
    | '[' :: _, 0 => .error .tooDeep
    | '[' :: rest, depth + 1 =>
      match skipBlanks rest with
      | ']' :: after => .ok (.list [], after)
      | first => (readItems depth fuel first).map (·.map .list id)
    | '\x7b' :: _, 0 => .error .tooDeep
    | '\x7b' :: rest, depth + 1 =>
      match skipBlanks rest with
      | '\x7d' :: after => .ok (.object [], after)
      | first => (readFields depth fuel [] first).map (·.map .object id)
    | _, _ => readScalar t

/-- Reads the items of a list up to its end. -/
def readItems (depth : Nat) : (fuel : Nat) → Text → Except Error (List Value × Text)
  | 0, _ => .error .malformed
  | fuel + 1, t =>
    match readValue depth fuel t with
    | .error e => .error e
    | .ok (v, after) =>
      match skipBlanks after with
      | ',' :: rest => (readItems depth fuel (skipBlanks rest)).map (·.map (v :: ·) id)
      | ']' :: rest => .ok ([v], rest)
      | _ => .error .malformed

/-- Reads the fields of an object up to its end, behind those already read. -/
def readFields (depth : Nat) : (fuel : Nat) → List (Text × Value) → Text →
    Except Error (List (Text × Value) × Text)
  | 0, _, _ => .error .malformed
  | fuel + 1, known, t =>
    match t with
    | '\x22' :: opened =>
      match readString (opened.length + 1) opened with
      | .error e => .error e
      | .ok (key, afterKey) =>
        match skipBlanks afterKey with
        | ':' :: written =>
          match readValue depth fuel (skipBlanks written) with
          | .error e => .error e
          | .ok (v, after) =>
            let fields := Value.setField key v known
            match skipBlanks after with
            | ',' :: rest => readFields depth fuel fields (skipBlanks rest)
            | '\x7d' :: rest => .ok (fields, rest)
            | _ => .error .malformed
        | _ => .error .malformed
    | _ => .error .malformed

end

/-- Reads a document: one value with blanks around it.  `depth` is how many lists and objects may
stand inside one another. -/
def read (depth : Nat) (t : Text) : Except Error Value :=
  match readValue depth (2 * t.length + 2) (skipBlanks t) with
  | .error e => .error e
  | .ok (v, rest) => if (skipBlanks rest).isEmpty then .ok v else .error .malformed

end CssTrim.Json
