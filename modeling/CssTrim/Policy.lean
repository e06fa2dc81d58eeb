import CssTrim.Block
import CssTrim.Pattern
import CssTrim.Selector
import CssTrim.Value

/-!
# Preservation policies

A policy keeps blocks that no document refers to.

* Predicates look at the block and at one selector of it.  They are tried in a
  fixed order, and each can be switched off.
* The safelist keeps a selector and the blocklist gives it up, before anything
  else is asked.  Their entries are literals, which name a selector, a class or
  an id, and patterns, which are written between slashes.

An entry that is neither a text nor a pattern, or whose pattern cannot be read,
is left out with a warning.  Only a pattern with a fault that is never passed over
refuses the list it stands in, and there is no policy with such a list.
-/

namespace CssTrim

/-! ## Entries of lists -/

/-- An entry of a safelist or blocklist, as it is given. -/
inductive Entry where
  | text (t : Text)
  | pattern (p : Pattern)
  /-- A value that can be no entry. -/
  | other (v : Value)

/-- The entries of a safelist or blocklist that count. -/
structure EntryList where
  literals : List Text := []
  patterns : List Pattern := []

namespace Entry

/-- What an entry is after reading. -/
inductive Meaning where
  | literal (t : Text)
  | pattern (p : Pattern)
  | blank
  /-- A text between slashes that is no pattern. -/
  | badPattern (written : Text) (e : Pattern.Error)
  | badValue (v : Value)

/-- The text between the slashes of an entry that is written as a pattern. -/
def patternSource? (t : Text) : Option Text :=
  if t.length > 2 ∧ t.head? = some '/' ∧ t.getLast? = some '/' then some t.tail.dropLast else none

/-- Reads an entry. -/
def meaning (h : Pattern.Host) : Entry → Meaning
  | pattern p => .pattern p
  | other v => .badValue v
  | text t =>
    let written := Text.trim t
    if written.isEmpty then .blank
    else
      match patternSource? written with
      | none => .literal (Text.squeeze written)
      | some source =>
        match Pattern.compile h source with
        | .ok p => .pattern p
        | .error e => .badPattern written e

namespace Meaning

/-- The literal, if the entry is one. -/
def literal? : Meaning → Option Text
  | literal t => some t
  | _ => none

/-- The pattern, if the entry is one. -/
def pattern? : Meaning → Option Pattern
  | pattern p => some p
  | _ => none

/-- The warning about an entry that is left out.  `label` names the list. -/
def warning? (label : Text) : Meaning → Option Text
  | badPattern written e =>
    some (label ++ ": invalid pattern ".toList ++ Text.quoted written ++ " skipped (".toList ++
      e.message written.tail.dropLast ++ [')'])
  | badValue v => some (label ++ ": ignored non-string entry ".toList ++ v.render)
  | _ => none

/-- The error in an entry that is not left out but refused. -/
def refusal? : Meaning → Option Pattern.Error
  | badPattern _ e => if e.fault.isFatal then some e else none
  | _ => none

end Meaning

end Entry

namespace EntryList

/-- The entries that count. -/
def ofEntries (h : Pattern.Host) (es : List Entry) : EntryList where
  literals := es.filterMap fun e => (e.meaning h).literal?
  patterns := es.filterMap fun e => (e.meaning h).pattern?

/-- The warnings about the entries that do not count. -/
def warnings (h : Pattern.Host) (label : Text) (es : List Entry) : List Text :=
  es.filterMap fun e => (e.meaning h).warning? label

/-- The error in the first entry that is refused. -/
def refusal? (h : Pattern.Host) (es : List Entry) : Option Pattern.Error :=
  es.findSome? fun e => (e.meaning h).refusal?

/-- The literals that name a simple selector. -/
def namesOf : SimpleSelector → List Text
  | .className t => [t, '.' :: t]
  | .id t => [t, '#' :: t]
  | _ => []

/-- Whether an entry names the selector or a class or id of it, or matches it. -/
def covers (l : EntryList) (selector : Text) : Bool :=
  l.literals.contains selector ||
    (Selector.simples selector).any (fun s => (namesOf s).any l.literals.contains) ||
    l.patterns.any (·.isFoundIn selector)

end EntryList

/-! ## Predicates -/

/-- A predicate that keeps blocks. -/
inductive Predicate where
  /-- Custom properties, in the selector or in the body. -/
  | properties
  | keyframes
  | fontFace
  /-- Pseudo-classes of interaction, and generated content. -/
  | interactive
  | media
  | root
  deriving DecidableEq

namespace Predicate

/-- The name that a report gives a predicate. -/
def name : Predicate → Text
  | properties => "variables".toList
  | keyframes => "keyframes".toList
  | fontFace => "font-face".toList
  | interactive => "interactive".toList
  | media => "media".toList
  | root => "root".toList

/-- The predicates in the order in which they are tried. -/
def all : List Predicate := [properties, keyframes, fontFace, interactive, media, root]

/-- The pseudo-classes and pseudo-elements of interaction. -/
def interactivePseudos : List Text :=
  [":hover".toList, ":focus".toList, ":active".toList, ":visited".toList, "::before".toList,
    "::after".toList, "::first-line".toList, "::first-letter".toList]

/-- Whether a predicate keeps a selector of a block. -/
def holds (p : Predicate) (b : Block) (selector : Text) : Bool :=
  match p with
  | properties => Text.occursIn ['-', '-'] selector || Text.occursIn ['-', '-'] b.body
  | keyframes => b.kind == .keyframes
  | fontFace => b.kind == .fontFace
  | interactive =>
    let low := Text.lower selector
    interactivePseudos.any fun pseudo => Text.occursIn pseudo low
  | media => b.kind == .media
  | root => Text.occursIn ":root".toList (Text.lower selector)

end Predicate

/-! ## Policies -/

/-- What to keep although no document refers to it. -/
structure Policy where
  keepVariables : Bool := true
  keepKeyframes : Bool := true
  keepFontFace : Bool := true
  keepInteractive : Bool := true
  keepMedia : Bool := true
  keepRoot : Bool := true
  safelist : EntryList := {}
  blocklist : EntryList := {}
  /-- What was left out when the lists were read. -/
  warnings : List Text := []

namespace Policy

/-- The policy with these lists, unless an entry is refused.  Warnings about the safelist come
first. -/
def withLists (h : Pattern.Host) (p : Policy) (safelist blocklist : List Entry) :
    Except Pattern.Error Policy :=
  match EntryList.refusal? h (safelist ++ blocklist) with
  | some e => .error e
  | none =>
    .ok { p with
      safelist := .ofEntries h safelist
      blocklist := .ofEntries h blocklist
      warnings := EntryList.warnings h "safelist".toList safelist ++
        EntryList.warnings h "blocklist".toList blocklist }

/-- The policy for critical rules, which keeps only variables and the root. -/
def forCritical (p : Policy) : Policy :=
  { p with keepKeyframes := false, keepFontFace := false, keepInteractive := false,
           keepMedia := false }

/-- Whether a predicate is switched on. -/
def allows (p : Policy) : Predicate → Bool
  | .properties => p.keepVariables
  | .keyframes => p.keepKeyframes
  | .fontFace => p.keepFontFace
  | .interactive => p.keepInteractive
  | .media => p.keepMedia
  | .root => p.keepRoot

/-- Whether the safelist keeps a selector. -/
def isSafelisted (p : Policy) (selector : Text) : Bool := p.safelist.covers selector

/-- Whether the blocklist gives a selector up. -/
def isBlocklisted (p : Policy) (selector : Text) : Bool := p.blocklist.covers selector

/-- The first predicate that keeps a selector of a block. -/
def preservedBy (p : Policy) (b : Block) (selector : Text) : Option Predicate :=
  Predicate.all.find? fun q => p.allows q && q.holds b selector

end Policy

end CssTrim
