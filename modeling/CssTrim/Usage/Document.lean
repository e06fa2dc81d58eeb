import CssTrim.Usage.Framework
import CssTrim.Usage.Markup
import CssTrim.Usage.Script
import CssTrim.Value

/-!
# Documents

The usage of a document depends on its kind.  Every kind is read as markup with
scripts; the kinds of the frameworks add what the framework writes in its own
way, and in a document with utilities a class may be a utility.

A document is given by a path, a content and a kind.  Where the kind is not one
of the known ones, it is guessed from the path and the content.
-/

namespace CssTrim

/-- What a document is written for. -/
inductive DocumentKind where
  | generic
  | jsx
  | vue
  | angular
  | tailwind
  deriving DecidableEq

namespace DocumentKind

/-- The name of a kind. -/
def name : DocumentKind → Text
  | generic => "generic".toList
  | jsx => "jsx".toList
  | vue => "vue".toList
  | angular => "angular".toList
  | tailwind => "tailwind".toList

/-- All kinds. -/
def all : List DocumentKind := [generic, jsx, vue, angular, tailwind]

/-- The kind with this name. -/
def ofName? (t : Text) : Option DocumentKind := all.find? (·.name == t)

/-- A directive of the utility framework. -/
def directive : Recognizer Unit := fun _ t => do
  let rest ← Text.oneOf? ["@tailwind".toList, "@apply".toList] t
  guard (Text.noWordChar rest.head?)
  pure ((), rest)

/-- Guesses the kind of a document. -/
def detect (path content : Text) : DocumentKind :=
  let p : Text := Text.lower path
  if p.endsWith ".component.ts".toList || p.endsWith ".component.html".toList then angular
  else if p.endsWith ".vue".toList then vue
  else if !(directive.findAll content).isEmpty then tailwind
  else if p.endsWith ".jsx".toList || p.endsWith ".tsx".toList then jsx
  else generic

end DocumentKind

namespace Usage

/-- The classes that a document of any kind mentions. -/
def commonClasses (t : Text) : List Text := attributeClasses t ++ callClasses t

/-- What a document of any kind mentions besides classes. -/
def commonMentions (t : Text) : List Mention :=
  markupMentions t ++ (callSelectors t).map .selector

/-- What a document of this kind mentions. -/
def mentions (kind : DocumentKind) (t : Text) : List Mention :=
  match kind with
  | .generic | .jsx => (commonClasses t).map .className ++ commonMentions t
  | .vue => (commonClasses t ++ boundClasses t).map .className ++ commonMentions t
  | .angular => (commonClasses t).map .className ++ commonMentions t ++ componentMentions t
  | .tailwind => (commonClasses t ++ appliedClasses t).flatMap utilityMentions ++ commonMentions t

/-- The usage of a document of this kind. -/
def ofDocument (kind : DocumentKind) (content : Text) : Usage := ofMentions (mentions kind content)

end Usage

/-- A document: where it is, what it holds, and what it is written for if that is known. -/
structure Document where
  path : Text
  /-- The text of the document; there is none where the content is no text. -/
  content : Option Text
  kind : Option DocumentKind

namespace Document

/-- Why a value is no document. -/
inductive Error where
  /-- A document needs a path, a content and a kind. -/
  | tooFewItems (count : Nat)
  /-- A document is a collection. -/
  | notACollection
  /-- The path is needed, and it is no text. -/
  | pathNotText
  deriving DecidableEq

/-- The wording of an error, where it has one. -/
def Error.message : Error → Option Text
  | tooFewItems count =>
    some ("not enough values to unpack (expected 3, got ".toList ++ Text.ofNat count ++ [')'])
  | notACollection => none
  | pathNotText => none

/-- The kind of a document, guessed where it is not known. -/
def kindOrGuess (d : Document) : DocumentKind :=
  d.kind.getD (.detect d.path (d.content.getD []))

/-- The usage of a document. -/
def usage (d : Document) : Usage :=
  match d.content with
  | some t => .ofDocument d.kindOrGuess t
  | none => .empty

/-- Reads a document from its items; the kind may be left out, and further items do not count.  The
path matters only where the kind has to be guessed. -/
def ofItems (items : List Value) : Except Error Document :=
  match items ++ [.text "auto".toList] with
  | path :: content :: kind :: _ =>
    let known :=
      match kind with
      | .text t => DocumentKind.ofName? t
      | _ => none
    let content :=
      match content with
      | .text t => some t
      | _ => none
    match path with
    | .text p => .ok ⟨p, content, known⟩
    | _ => if known.isNone ∧ path.isTruthy then .error .pathNotText else .ok ⟨[], content, known⟩
  | few => .error (.tooFewItems few.length)

/-- Reads a document from a value. -/
def ofValue (v : Value) : Except Error Document :=
  match v.items? with
  | some items => ofItems items
  | none => .error .notACollection

/-- Reads the documents of a collection. -/
def listOfValue (v : Value) : Except Error (List Document) :=
  match v.items? with
  | some items => items.mapM ofValue
  | none => .error .notACollection

end Document

/-- The usage of several documents. -/
def Usage.ofDocuments (ds : List Document) : Usage :=
  ds.foldl (fun u d => u.union d.usage) .empty

end CssTrim
