import CssTrim.Pattern.Casing
import CssTrim.Pattern.Syntax
import CssTrim.Text.DecimalDigit
import CssTrim.Text.Word

/-!
# Matching patterns

A tree is matched by trying its choices in order and going back to the last
choice when what follows fails.  What follows is given as a continuation, so
matching is a recursion on the tree.

An unlimited repetition needs a bound only because every round that is tried
again takes a character: a round that takes none is the last one.
-/

namespace CssTrim.Pattern

open Text

/-- A place in a text: the characters before it, last first, those after it, and the texts that
groups have matched. -/
structure Place where
  before : Text
  after : Text
  groups : List (Nat × Text)

namespace Place

/-- The place behind the next character, and that character. -/
def next? (p : Place) : Option (Char × Place) :=
  match p.after with
  | c :: rest => some (c, { p with before := c :: p.before, after := rest })
  | [] => none

/-- The place this many characters earlier. -/
def back? (p : Place) : Nat → Option Place
  | 0 => some p
  | n + 1 =>
    match p.before with
    | c :: rest => back? { p with before := rest, after := c :: p.after } n
    | [] => none

/-- The text that the group with this number has matched. -/
def group? (p : Place) (index : Nat) : Option Text := (p.groups.find? (·.1 == index)).map (·.2)

end Place

/-! ## Characters -/

/-- A blank of ASCII. -/
def isAsciiBlank (c : Char) : Bool := c == ' ' || ('\t' ≤ c && c ≤ '\r')

/-- Whether a character is in a class with a name. -/
def Category.has (options : Options) (k : Category) (c : Char) : Bool :=
  if options.contains 'a' then
    match k with
    | .digit => isAsciiDigit c
    | .blank => isAsciiBlank c
    | .word => c.isAlphanum || c == '_'
  else
    match k with
    | .digit => isDecimalDigit c
    | .blank => isBlank c
    | .word => isWordChar c

/-- Whether a code point agrees with a character. -/
def sameCode (options : Options) (n : Nat) (c : Char) : Bool :=
  if !options.contains 'i' then n == c.toNat
  else if options.contains 'a' then (asciiVariants n).contains c.toNat
  else sameFolding n c.toNat

/-- Whether some code point of a range agrees with a character. -/
def inRange (options : Options) (low high : Nat) (c : Char) : Bool :=
  if !options.contains 'i' then low ≤ c.toNat && c.toNat ≤ high
  else if options.contains 'a' then
    (asciiVariants c.toNat).any fun n => low ≤ n && n ≤ high
  else foldsIntoRange low high c.toNat

/-- Whether a character repeats another one. -/
def repeats (options : Options) (c d : Char) : Bool :=
  if !options.contains 'i' then c == d
  else if options.contains 'a' then asciiLowerCode c.toNat == asciiLowerCode d.toNat
  else lowerCode c.toNat == lowerCode d.toNat

/-- Whether an element of a set has a character. -/
def SetItem.has (options : Options) (item : SetItem) (c : Char) : Bool :=
  match item with
  | .code n => sameCode options n c
  | .range low high => inRange options low high c
  | .category k positive => k.has options c == positive

/-- Whether a condition holds at a place. -/
def Anchor.holds (options : Options) (a : Anchor) (p : Place) : Bool :=
  let lines := options.contains 'm'
  let isWord (t : Text) : Bool := t.head?.any (Category.word.has options)
  let isEmpty := p.before.isEmpty && p.after.isEmpty
  match a with
  | .start => p.before.isEmpty || (lines && p.before.head? == some '\n')
  | .finish =>
    p.after.isEmpty || p.after == ['\n'] || (lines && p.after.head? == some '\n')
  | .textStart => p.before.isEmpty
  | .textFinish => p.after.isEmpty
  | .wordEdge => !isEmpty && isWord p.before != isWord p.after
  | .noWordEdge => !isEmpty && isWord p.before == isWord p.after

/-! ## Matchers -/

/-- A way to match: it hands the places it can reach to what follows, in order, until one is
accepted. -/
abbrev Matcher := (Place → Option Place) → Place → Option Place

namespace Matcher

/-- Takes one character of a class. -/
def one (accepts : Char → Bool) : Matcher := fun k p =>
  match p.next? with
  | some (c, q) => if accepts c then k q else none
  | none => none

/-- Takes a text. -/
def word (same : Char → Char → Bool) : Text → Matcher
  | [] => fun k p => k p
  | c :: rest => fun k p => one (same c) (word same rest k) p

/-- Matches exactly this many times. -/
def times (m : Matcher) : Nat → Matcher
  | 0 => fun k p => k p
  | n + 1 => fun k p => m (times m n k) p

/-- Matches at most this many times, as often as possible first.  A round that takes no character is
the last. -/
def upTo (m : Matcher) : Nat → Matcher
  | 0 => fun k p => k p
  | n + 1 => fun k p =>
    match m (fun q => if q.after.length = p.after.length then k q else upTo m n k q) p with
    | some q => some q
    | none => k p

/-- Matches at most this many times, as seldom as possible first.  A round that takes no character
is the last. -/
def upToLazy (m : Matcher) : Nat → Matcher
  | 0 => fun k p => k p
  | n + 1 => fun k p =>
    match k p with
    | some q => some q
    | none => m (fun q => if q.after.length = p.after.length then k q else upToLazy m n k q) p

/-- Matches once and does not go back into the match. -/
def atomic (m : Matcher) : Matcher := fun k p =>
  match m some p with
  | some q => k q
  | none => none

/-- Repeats a matcher. -/
def repeated (m : Matcher) (greed : Greed) (least : Nat) (most : Option Nat) : Matcher :=
  fun k p =>
    let rounds := (most.map (· - least)).getD (p.after.length + 1)
    match greed with
    | .greedy => times m least (upTo m rounds k) p
    | .lazy => times m least (upToLazy m rounds k) p
    | .possessive => atomic (fun k => times m least (upTo m rounds k)) k p

/-- Goes on from the same place if the matcher succeeds there, with the groups it has matched. -/
def holding (m : Matcher) (start : Place → Option Place) : Matcher := fun k p =>
  match (start p).bind (m some) with
  | some q => k { p with groups := q.groups }
  | none => none

/-- Goes on from the same place if the matcher fails there. -/
def failing (m : Matcher) (start : Place → Option Place) : Matcher := fun k p =>
  match (start p).bind (m some) with
  | some _ => none
  | none => k p

end Matcher

/-- The matcher of a tree. -/
def Node.matcher : Node → Options → Matcher
  | empty, _ => fun k p => k p
  | code n, o => .one (sameCode o n)
  | set negated items, o => .one fun c => items.any (·.has o c) != negated
  | any, o => .one fun c => o.contains 's' || c != '\n'
  | anchor a, o => fun k p => if a.holds o p then k p else none
  | seq a b, o => fun k p => a.matcher o (b.matcher o k) p
  | alt a b, o => fun k p =>
    match a.matcher o k p with
    | some q => some q
    | none => b.matcher o k p
  | capture index a, o => fun k p =>
    a.matcher o (fun q =>
      let taken := p.after.take (p.after.length - q.after.length)
      k { q with groups := (index, taken) :: q.groups.filter (·.1 != index) }) p
  | grouped on off a, o => a.matcher (o.within on off)
  | repeated greed least most a, o => (a.matcher o).repeated greed least most
  | atomic a, o => .atomic (a.matcher o)
  | ahead false a, o => .holding (a.matcher o) some
  | ahead true a, o => .failing (a.matcher o) some
  | behind false a, o => .holding (a.matcher o) (·.back? a.width.1)
  | behind true a, o => .failing (a.matcher o) (·.back? a.width.1)
  | backref index _, o => fun k p =>
    match p.group? index with
    | some t => Matcher.word (repeats o) t k p
    | none => none
  | conditional index yes no, o => fun k p =>
    if (p.group? index).isSome then yes.matcher o k p else no.matcher o k p

/-- Whether a tree matches at the place or at a later one. -/
def Node.matchesFrom (node : Node) (options : Options) (before : Text) : Text → Bool
  | [] => (node.matcher options some ⟨before, [], []⟩).isSome
  | c :: rest =>
    (node.matcher options some ⟨before, c :: rest, []⟩).isSome ||
      matchesFrom node options (c :: before) rest

end CssTrim.Pattern
