import CssTrim.Usage.Literal

/-!
# What markup mentions

Class and id attributes, tags and the names of their attributes, and attribute
selectors and pseudo-classes that are written anywhere in a document.
-/

namespace CssTrim.Usage

open Text

/-- Whether an attribute name may start behind a character: not behind a colon, a hyphen or a
character of a word. -/
def startsAttribute (before : Option Char) : Bool :=
  match before with
  | some c => !(c == ':' || c == '-' || isWordChar c)
  | none => true

/-! ## Class attributes -/

/-- The value of a class attribute in quotes. -/
def classAttribute : Recognizer Text := fun before t => do
  guard (startsAttribute before)
  let rest ← oneOf? ["className".toList, "class".toList] t
  between? allQuotes (← equals? rest)

/-- The expression of a class attribute in braces.  The phrase itself ends behind the opening
brace. -/
def classExpression : Recognizer Text := fun before t => do
  guard (startsAttribute before)
  let rest ← after? ['\x7b'] (← equals? (← after? "className".toList t))
  pure (bracedText 0 rest, rest)

/-- The classes in the class attributes of a document. -/
def attributeClasses (t : Text) : List Text :=
  (classAttribute.findAll t).flatMap classNames ++
    (classExpression.findAll t).flatMap literalClasses

/-! ## Ids -/

/-- The value of an id attribute. -/
def idAttribute : Recognizer Text := fun before t => do
  guard (startsAttribute before && before != some '.')
  plainBetween? quotes (← equals? (← after? "id".toList t))

/-- The ids in the id attributes of a document. -/
def attributeIds (t : Text) : List Text :=
  ((idAttribute.findAll t).map trim).filter (!·.isEmpty)

/-! ## Attribute selectors -/

/-- A character that continues the name in an attribute selector. -/
def isSelectorNameChar (c : Char) : Bool := c == '-' || c == ':' || c == '.' || isWordChar c

/-- Reads the name of an attribute, which starts with a letter or an underscore. -/
def selectorName? (t : Text) : Option Text := do
  let (_, rest) ← one? (fun c => c == '_' || isAsciiLetter c) t
  pure (rest.dropWhile isSelectorNameChar)

/-- Reads the flag behind the value of an attribute selector, if there is one, and the blanks around
it. -/
def skipFlag (t : Text) : Text :=
  let u := trimStart t
  match u with
  | c :: rest => if "iIsS".toList.contains c then trimStart rest else u
  | [] => u

/-- Reads the value in an attribute selector: in quotes on one line, or bare. -/
def selectorValue? (t : Text) : Option Text :=
  match t with
  | q :: rest =>
    if isQuote q then
      match rest.dropWhile fun c => c != q && c != '\n' with
      | c :: after => if c = q then some after else none
      | [] => none
    else (run? (fun c => !(c == ']' || isBlank c || isQuote c)) t).map (·.2)
  | [] => none

/-- Reads the comparison of an attribute selector: an operator, a value and a flag. -/
def comparison? (t : Text) : Option Text := do
  let afterSign :=
    match t with
    | c :: rest => if "~|^$*".toList.contains c then rest else t
    | [] => t
  let value ← after? ['='] afterSign
  pure (skipFlag (← selectorValue? (trimStart value)))

/-- An attribute selector, as written. -/
def attributeSelector : Recognizer Text := fun _ t => do
  let opened ← after? ['['] t
  let rest := trimStart (← selectorName? (trimStart opened))
  let closed ← after? [']'] ((comparison? rest).getD rest)
  pure (t.take (t.length - closed.length), closed)

/-! ## Tags -/

/-- The names of the tags of HTML. -/
def htmlTags : List Text :=
  ["a abbr address area article aside audio b blockquote body br button canvas caption",
    "code col colgroup dd details dialog div dl dt em fieldset figcaption figure footer",
    "form h1 h2 h3 h4 h5 h6 head header hr html i iframe img input label legend li link",
    "main mark menu meta nav noscript ol optgroup option output p picture pre progress q",
    "s section select small source span strong sub summary sup svg table tbody td template",
    "textarea tfoot th thead time title tr u ul video"].flatMap fun line => words line.toList

/-- A tag: its name, and the text of its attributes without the slash at the end. -/
def tag : Recognizer (Text × Text) := fun _ t => do
  let opened ← after? ['<'] t
  let (first, more) ← one? isAsciiLetter opened
  let (others, rest) := run (fun c => c.isAlphanum || c == '-') more
  let name := first :: others
  match rest with
  | '>' :: left => pure ((name, []), left)
  | '/' :: '>' :: left => pure ((name, []), left)
  | c :: _ =>
    guard (isBlank c)
    let inside := rest.takeWhile fun c => c != '<' && c != '>'
    let left ← after? ['>'] (rest.dropWhile fun c => c != '<' && c != '>')
    pure ((name, if inside.getLast? = some '/' then inside.dropLast else inside), left)
  | [] => none

/-- A quoted value, or an expression in braces without braces inside. -/
def attributeValue : Recognizer Unit := fun _ t =>
  match t with
  | q :: rest =>
    if isQuote q then (upTo? (· == q) rest).map fun p => ((), p.2)
    else if q = '\x7b' then
      match rest.dropWhile fun c => c != '\x7b' && c != '\x7d' with
      | '\x7d' :: left => some ((), left)
      | _ => none
    else none
  | [] => none

/-- The name of an attribute behind a blank. -/
def attributeName : Recognizer Text := fun _ t => do
  let (_, rest) ← one? isBlank t
  let (first, more) ← one? (fun c => c == '_' || c == '@' || c == ':' || isAsciiLetter c) rest
  let (others, left) := run (fun c => c == '@' || isSelectorNameChar c) more
  match left with
  | [] => pure (first :: others, left)
  | c :: _ =>
    guard (c == '=' || isBlank c)
    pure (first :: others, left)

/-- The mentions of a tag: the tag itself if HTML has it, and its attributes. -/
def tagMentions (name attributes : Text) : List Mention :=
  let low := lower name
  (if htmlTags.contains low then [.tag low] else []) ++
    (attributeName.findAll (attributeValue.replaceAll ['\x22', '\x22'] attributes)).map
      fun n => .attr ('[' :: lower n ++ [']'])

/-! ## Pseudo-classes -/

/-- A pseudo-class or pseudo-element with its argument, as written. -/
def pseudo : Recognizer Text := fun before t => do
  guard (noWordChar before && before != some ':' && before != some '\\')
  let opened ← after? [':'] t
  let (_, rest) ← one? isAsciiLetter ((after? [':'] opened).getD opened)
  let named := rest.dropWhile fun c => c == '-' || isAsciiLetter c
  let left :=
    match named with
    | '(' :: args =>
      match args.dropWhile fun c => !(c == '(' || c == ')' || c == '\n') with
      | ')' :: behind => behind
      | _ => named
    | _ => named
  pure (t.take (t.length - left.length), left)

/-! ## Documents -/

/-- What the markup of a document mentions, classes apart. -/
def markupMentions (t : Text) : List Mention :=
  (attributeIds t).map .id ++ (attributeSelector.findAll t).map .attr ++
    (tag.findAll t).flatMap (fun (name, attributes) => tagMentions name attributes) ++
    (pseudo.findAll t).map .raw

end CssTrim.Usage
