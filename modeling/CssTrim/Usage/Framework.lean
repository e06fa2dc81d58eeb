import CssTrim.Usage.Literal

/-!
# What frameworks add

Class bindings of component frameworks, and the utility classes of a utility
framework.  A utility may carry a variant in front of a colon, which is then
mentioned as well.
-/

namespace CssTrim.Usage

open Text

/-! ## Class bindings -/

/-- The expression of a class binding in a template attribute. -/
def boundClass : Recognizer Text := fun _ t => do
  let rest ← oneOf? ["v-bind:class".toList, ":class".toList] t
  between? quotes (← equals? rest)

/-- A key of an object expression: at the start of the expression, or behind a brace or a comma. -/
def objectKey : Recognizer Text := fun before t => do
  let start ←
    match t with
    | c :: rest =>
      if c = '\x7b' ∨ c = ',' then some rest else if before.isNone then some t else none
    | [] => none
  let (key, rest) ← run? (fun c => c == '-' || isWordChar c) (trimStart start)
  let left ← after? [':'] (trimStart rest)
  pure (key, left)

/-- The classes in the bindings of a template. -/
def boundClasses (t : Text) : List Text :=
  (boundClass.findAll t).flatMap fun expression =>
    literalClasses expression ++ objectKey.findAll expression

/-! ## Components -/

/-- The selector group of a component. -/
def componentSelector : Recognizer Text := fun before t => do
  guard (noWordChar before)
  let rest ← after? "selector".toList t
  let value ← after? [':'] (trimStart rest)
  let (group, left) ← plainBetween? allQuotes (trimStart value)
  guard (!group.isEmpty)
  pure (group, left)

/-- The class in a binding of a single class. -/
def singleClass : Recognizer Text := fun _ t => do
  let rest ← after? "[class.".toList t
  let (name, after) ← run? (fun c => c == '-' || isWordChar c) rest
  let left ← after? [']'] after
  pure (name, left)

/-- What the components of a document mention. -/
def componentMentions (t : Text) : List Mention :=
  ((componentSelector.findAll t).flatMap Selector.alternatives).flatMap
      (fun s => [.utility s, .selector s]) ++
    (singleClass.findAll t).map .className

/-! ## Utilities -/

/-- The variants of a utility class. -/
def variants : List Text :=
  words ("hover focus focus-within focus-visible active visited disabled group-hover group-focus " ++
    "peer-hover peer-focus dark first last odd even sm md lg xl 2xl").toList

/-- Whether a class has the form of a utility class. -/
def isUtility (t : Text) : Bool :=
  match t with
  | c :: rest =>
    c.isLower && rest.all fun d => d.isLower || isAsciiDigit d || d == ':' || d == '-'
  | [] => false

/-- What a class of a document with utilities mentions. -/
def utilityMentions (name : Text) : List Mention :=
  if isUtility name then
    let variant := name.takeWhile (· != ':')
    .utility name ::
      (if variant.length < name.length ∧ variants.contains variant then [.utility variant] else [])
  else [.className name]

/-- The classes that a rule applies by name. -/
def applied : Recognizer Text := fun _ t => do
  let rest ← after? "@apply".toList t
  let (_, body) ← one? isBlank rest
  upTo? (fun c => c == ';' || c == '\x7d') body

/-- The classes that the rules of a document apply.  A word that starts with an exclamation mark is
no class. -/
def appliedClasses (t : Text) : List Text :=
  ((applied.findAll t).flatMap words).filter (·.head? != some '!')

end CssTrim.Usage
