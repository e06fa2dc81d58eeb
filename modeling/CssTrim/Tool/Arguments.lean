import CssTrim.Text
import CssTrim.Text.DecimalDigit

/-!
# Arguments of a command

A command takes flags, each with a value or without one.

* A value stands behind its flag as the next word, or in the same word behind
  an equals sign.
* A flag may be cut short as long as no other one starts in the same way.
* A word that starts with a hyphen is no value, unless it is a negative number
  or holds a space.

Nothing else may be given.
-/

namespace CssTrim.Tool

/-- A flag of a command. -/
structure Flag where
  name : Text
  takesValue : Bool := true
  /-- The values that the flag takes, if they are limited. -/
  choices : Option (List Text) := none
  deriving DecidableEq

/-- Why arguments are not taken. -/
inductive Refusal where
  /-- The arguments ask for help. -/
  | help
  | misuse
  deriving DecidableEq

/-- The flags that were given with their values, in order. -/
abbrev Given := List (Text × Text)

namespace Given

/-- The value of a flag that was given last. -/
def value? (g : Given) (name : Text) : Option Text := (g.reverse.find? (·.1 == name)).map (·.2)

/-- All values of a flag, in order. -/
def values (g : Given) (name : Text) : List Text := (g.filter (·.1 == name)).map (·.2)

/-- Whether a flag was given. -/
def has (g : Given) (name : Text) : Bool := g.any (·.1 == name)

end Given

namespace Arguments

/-! ## Words -/

/-- What a word of the arguments is. -/
inductive Word where
  | plain (t : Text)
  /-- A flag, with the value in the same word. -/
  | flag (f : Flag) (value : Option Text)
  | unknown

/-- The flags that ask for help. -/
def helpFlags : List Flag :=
  [{ name := "-h".toList, takesValue := false }, { name := "--help".toList, takesValue := false }]

/-- Whether digits are written, with a point in front of the last ones or without. -/
def isUnsignedNumber (t : Text) : Bool :=
  let whole := t.takeWhile Text.isDecimalDigit
  match t.dropWhile Text.isDecimalDigit with
  | [] => !whole.isEmpty
  | '.' :: places => !places.isEmpty && places.all Text.isDecimalDigit
  | _ => false

/-- Whether a word is a negative number.  A line break may stand at its end. -/
def isNegativeNumber : Text → Bool
  | '-' :: t => isUnsignedNumber (if t.getLast? = some '\n' then t.dropLast else t)
  | _ => false

/-- Cuts a word at its first equals sign. -/
def cutAtEquals (t : Text) : Text × Option Text :=
  match t.dropWhile (· != '=') with
  | _ :: value => (t.takeWhile (· != '='), some value)
  | [] => (t, none)

/-- The flags whose name starts in this way. -/
def startingWith (flags : List Flag) (start : Text) : List Flag :=
  if Text.startsWith start "--".toList then flags.filter (Text.startsWith ·.name start) else []

/-- What a word is that starts with a hyphen. -/
def dashWord (flags : List Flag) (t : Text) : Except Refusal Word :=
  let (start, value) := cutAtEquals t
  match flags.find? (·.name == t), flags.find? (·.name == start) with
  | some f, _ => .ok (.flag f none)
  | none, some f => .ok (.flag f value)
  | none, none =>
    match startingWith flags start with
    | [f] => .ok (.flag f value)
    | _ :: _ :: _ => .error .misuse
    | [] => .ok (if isNegativeNumber t || t.contains ' ' then .plain t else .unknown)

/-- What the words of the arguments are.  Nothing that follows two hyphens on their own has a
meaning. -/
def wordsOf (flags : List Flag) : List Text → Except Refusal (List Word)
  | [] => .ok []
  | t :: rest =>
    if t = "--".toList then .ok [.unknown]
    else do
      let word ← if t.head? = some '-' ∧ t.length > 1 then dashWord flags t else .ok (.plain t)
      pure (word :: (← wordsOf flags rest))

/-! ## Flags -/

/-- Whether a flag takes a value. -/
def Flag.accepts (f : Flag) (value : Text) : Bool := f.choices.all (·.contains value)

/-- The flags that words give. -/
def givenBy : List Word → Except Refusal Given
  | [] => .ok []
  | .flag f (some value) :: rest =>
    if f.takesValue && Flag.accepts f value then (givenBy rest).map ((f.name, value) :: ·)
    else .error .misuse
  | .flag f none :: .plain value :: rest =>
    if f.takesValue then
      if Flag.accepts f value then (givenBy rest).map ((f.name, value) :: ·) else .error .misuse
    else if helpFlags.contains f then .error .help
    else
      match givenBy rest with
      | .error .help => .error .help
      | _ => .error .misuse
  | .flag f none :: rest =>
    if f.takesValue then .error .misuse
    else if helpFlags.contains f then .error .help
    else (givenBy rest).map ((f.name, []) :: ·)
  | _ :: rest =>
    match givenBy rest with
    | .error .help => .error .help
    | _ => .error .misuse

/-- Reads arguments, among which a flag has to be. -/
def read (flags : List Flag) (needed : Text) (arguments : List Text) : Except Refusal Given := do
  let given ← givenBy (← wordsOf (flags ++ helpFlags) arguments)
  if given.has needed then pure given else .error .misuse

end Arguments

end CssTrim.Tool
