import CssTrim.Environment
import CssTrim.Text.Recognizer

/-!
# Files with variables

A file holds assignments of the form `NAME=value`, one a line, with blank lines
and comments behind `#` between them.  The word `export` may stand in front.

* A value in single or double quotes may span lines and has escapes.  Any other
  value is the rest of the line up to a comment.
* `${NAME}` and `${NAME:-default}` in a value stand for the value of a variable.
* A name without an equals sign is given no value.
* What cannot be read is passed over up to the end of its line.

Line breaks are line feeds.

This is one way to read such files, of which a path has been given.  What is said of
settings elsewhere does not depend on it: `Settings.Loader` may look for a file
itself and read it in any way.
-/

namespace CssTrim.EnvFile

open Text

/-- A name that a file mentions, with the value that is written for it. -/
structure Assignment where
  name : Text
  value : Option Text
  deriving DecidableEq

/-- Reading one part of a statement.  What cannot be read is handed back. -/
abbrev Reader (α : Type) := Text → Except Text (α × Text)

/-! ## Parts of a statement -/

/-- A blank that breaks no line. -/
def isInlineBlank (c : Char) : Bool := isBlank c && c != '\n'

/-- Drops the blanks in front up to the end of the line. -/
def skipInline (t : Text) : Text := t.dropWhile isInlineBlank

/-- Drops the rest of the line with its end. -/
def skipLine (t : Text) : Text := (t.dropWhile (· != '\n')).drop 1

/-- Drops the word `export` with the blanks behind it. -/
def skipExport (t : Text) : Text :=
  match after? "export".toList t with
  | some (c :: rest) => if isInlineBlank c then skipInline rest else t
  | _ => t

/-- Reads a name.  There is none in front of a comment. -/
def readName : Reader (Option Text) := fun t =>
  match t with
  | '#' :: _ => .ok (none, t)
  | '\x27' :: rest =>
    match upTo? (· == '\x27') rest with
    | some (name, left) => if name.isEmpty then .error t else .ok (some name, left)
    | none => .error t
  | _ =>
    match run? (fun c => c != '=' && c != '#' && !isBlank c) t with
    | some (name, left) => .ok (some name, left)
    | none => .error t

/-- Reads the rest of a value in quotes, of which the opening one has been read.  A quote behind a
backslash does not close the value, unless no other one does. -/
def closeQuoted? (quote : Char) : Text → Option (Text × Text)
  | [] => none
  | '\\' :: q :: rest =>
    if q = quote then
      match closeQuoted? quote rest with
      | some (body, left) => some ('\\' :: q :: body, left)
      | none => some (['\\'], rest)
    else (closeQuoted? quote (q :: rest)).map (·.map ('\\' :: ·) id)
  | c :: rest =>
    if c = quote then some ([], rest) else (closeQuoted? quote rest).map (·.map (c :: ·) id)

/-- The characters that escapes in double quotes stand for. -/
def doubleEscapes : List (Char × Char) :=
  [('\\', '\\'), ('\x27', '\x27'), ('\x22', '\x22'), ('a', '\x07'), ('b', '\x08'), ('f', '\x0c'),
    ('n', '\n'), ('r', '\r'), ('t', '\t'), ('v', '\x0b')]

/-- The characters that escapes in single quotes stand for. -/
def singleEscapes : List (Char × Char) := [('\\', '\\'), ('\x27', '\x27')]

/-- An escape out of a table. -/
def escape (table : List (Char × Char)) : Recognizer Char := fun _ t =>
  match t with
  | '\\' :: c :: rest => (table.find? (·.1 == c)).map fun e => (e.2, rest)
  | _ => none

/-- The text of a value in quotes. -/
def unescape (table : List (Char × Char)) (body : Text) : Text :=
  (escape table).substitute (fun c => [c]) body

/-- Drops a comment: a number sign behind a blank and all that follows.  `before` says whether
there is a blank in front. -/
def dropComment (before : Bool) : Text → Text
  | [] => []
  | c :: rest => if before && c == '#' then [] else c :: dropComment (isBlank c) rest

/-- Reads the value behind an equals sign. -/
def readValue : Reader Text := fun t =>
  match t with
  | '\x27' :: rest =>
    match closeQuoted? '\x27' rest with
    | some (body, left) => .ok (unescape singleEscapes body, left)
    | none => .error t
  | '\x22' :: rest =>
    match closeQuoted? '\x22' rest with
    | some (body, left) => .ok (unescape doubleEscapes body, left)
    | none => .error t
  | _ =>
    let (written, left) := run (· != '\n') t
    .ok (trimEnd (dropComment false written), left)

/-- Reads an equals sign and the value behind it, if there is one. -/
def readAssigned : Reader (Option Text) := fun t =>
  match skipInline t with
  | '=' :: rest => (readValue (skipInline rest)).map (·.map some id)
  | left => .ok (none, left)

/-- Reads the end of a line, with a comment in front of it. -/
def readLineEnd (t : Text) : Except Text Text :=
  match skipInline t with
  | [] => .ok []
  | '\n' :: rest => .ok rest
  | '#' :: rest => .ok (skipLine rest)
  | _ => .error t

/-! ## Statements -/

/-- Reads a statement from its first character on. -/
def readStatement : Reader (Option Assignment) := fun t => do
  let (name, behindName) ← readName (skipExport t)
  let (value, behindValue) ← readAssigned behindName
  let left ← readLineEnd behindValue
  pure (name.map fun n => ⟨n, value⟩, left)

/-- A statement with the blanks in front of it.  One that cannot be read assigns nothing. -/
def statement : Recognizer (Option Assignment) := fun _ t =>
  match trimStart t with
  | [] => some (none, [])
  | start =>
    match readStatement start with
    | .ok (found, left) => some (found, left)
    | .error left => some (none, skipLine left)

/-- The assignments of a file, in order. -/
def assignments (t : Text) : List Assignment := (statement.findAll t).filterMap id

/-! ## Values of variables -/

/-- A place in a value that stands for a variable: its name and a default. -/
def placeholder : Recognizer (Text × Text) := fun _ t => do
  let opened ← after? ['$', '\x7b'] t
  let (name, rest) := run (fun c => c != ':' && c != '\x7d') opened
  match after? ['\x7d'] rest with
  | some left => pure ((name, []), left)
  | none =>
    let (other, left) ← upTo? (· == '\x7d') (← after? [':', '-'] rest)
    pure ((name, other), left)

/-- The value with the values of variables in their places. -/
def expand (get? : Text → Option Text) (value : Text) : Text :=
  placeholder.substitute (fun (name, other) => (get? name).getD other) value

/-- The values so far: names with what was last assigned to them. -/
abbrev Known := List (Text × Option Text)

/-- The value that a placeholder has.  The environment comes first; a name without a value has an
empty one. -/
def knownValue? (e : Environment) (known : Known) (name : Text) : Option Text :=
  (e.get? name).or ((known.find? (·.1 == name)).map fun v => v.2.getD [])

/-- The values behind one more assignment. -/
def assign (e : Environment) (known : Known) (a : Assignment) : Known :=
  (a.name, a.value.map (expand (knownValue? e known))) :: known.filter (·.1 != a.name)

/-- The variables that assignments give a value to, where the environment does not have them.  The
last assignment of a name counts. -/
def resolve (e : Environment) (as : List Assignment) : List (Text × Text) :=
  (as.foldl (assign e) []).filterMap fun v =>
    if (e.get? v.1).isSome then none else v.2.map fun value => (v.1, value)

/-- The names that assignments give values to or put values in for. -/
def namesIn (as : List Assignment) : List Text :=
  as.flatMap fun a => a.name :: (placeholder.findAll (a.value.getD [])).map (·.1)

end CssTrim.EnvFile
