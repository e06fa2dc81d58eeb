import CssTrim.Text

/-!
# Syntax trees of patterns

A regular expression as a tree.  Sequences and alternatives are binary, so a
definition on trees is a plain recursion.

`Node.width` bounds the length of the texts that a tree can match.  A tree that
is matched backwards must have one width only.
-/

namespace CssTrim.Pattern

/-- The letters of the options that are switched on: `i` ignores case, `m` lets line breaks bound
lines, `s` lets a dot match a line break, `x` allows blanks and comments, `a` restricts classes to
ASCII, `t` forbids repetitions. -/
abbrev Options := List Char

namespace Options

/-- The options that choose a character set; at most one of them is on. -/
def charsets : Options := ['a', 'L', 'u']

/-- The options inside a group that switches some on and some off. -/
def within (outer on off : Options) : Options :=
  let kept := if on.any charsets.contains then outer.filter (!charsets.contains ·) else outer
  (kept ++ on).filter (!off.contains ·)

end Options

/-- A class of characters with a name. -/
inductive Category where
  | digit
  | blank
  | word
  deriving DecidableEq

/-- An element of a character set.  Characters are code points, since a pattern may name one that
no text holds. -/
inductive SetItem where
  | code (n : Nat)
  | range (low high : Nat)
  | category (c : Category) (positive : Bool)
  deriving DecidableEq

/-- A condition on a place that takes no characters. -/
inductive Anchor where
  /-- `^`: the start, or the start of a line. -/
  | start
  /-- `$`: the end, or before a line break at the end. -/
  | finish
  /-- `\A`: the start of the text. -/
  | textStart
  /-- `\Z`: the end of the text. -/
  | textFinish
  /-- `\b`: one side holds a character of a word and the other does not. -/
  | wordEdge
  /-- `\B`: the opposite. -/
  | noWordEdge
  deriving DecidableEq

/-- How often a repetition is tried first. -/
inductive Greed where
  | greedy
  | lazy
  /-- As often as possible, without giving back. -/
  | possessive
  deriving DecidableEq

/-- Bounds on a length; the upper one may be missing. -/
abbrev Width := Nat × Option Nat

/-- A syntax tree. -/
inductive Node where
  | empty
  | code (n : Nat)
  | set (negated : Bool) (items : List SetItem)
  | any
  | anchor (a : Anchor)
  | seq (first second : Node)
  | alt (first second : Node)
  /-- A group whose text is recorded under a number. -/
  | capture (index : Nat) (body : Node)
  /-- A group that records nothing and may change the options. -/
  | grouped (on off : Options) (body : Node)
  /-- A repetition; without an upper bound it is unlimited. -/
  | repeated (greed : Greed) (least : Nat) (most : Option Nat) (body : Node)
  /-- A group that is not entered again once it has matched. -/
  | atomic (body : Node)
  /-- A condition on what follows. -/
  | ahead (negated : Bool) (body : Node)
  /-- A condition on what precedes. -/
  | behind (negated : Bool) (body : Node)
  /-- The text of a group once more.  The width is the one of the group. -/
  | backref (index : Nat) (width : Width)
  /-- One of two trees, depending on whether a group has matched. -/
  | conditional (index : Nat) (yes no : Node)

namespace Width

/-- The width of one text behind another. -/
def add (v w : Width) : Width := (v.1 + w.1, v.2.bind fun m => w.2.map (m + ·))

/-- The width of either of two texts. -/
def join (v w : Width) : Width := (min v.1 w.1, v.2.bind fun m => w.2.map (max m ·))

/-- The width of a repetition. -/
def times (least : Nat) (most : Option Nat) (w : Width) : Width :=
  (w.1 * least,
    match most, w.2 with
    | some 0, _ | _, some 0 => some 0
    | some n, some m => some (n * m)
    | _, _ => none)

end Width

namespace Node

/-- The bounds on the length of what a tree matches. -/
def width : Node → Width
  | empty | anchor _ | ahead _ _ | behind _ _ => (0, some 0)
  | code _ | set _ _ | any => (1, some 1)
  | seq a b => a.width.add b.width
  | alt a b => a.width.join b.width
  | capture _ a | grouped _ _ a | atomic a => a.width
  | repeated _ least most a => a.width.times least most
  | backref _ w => w
  | conditional _ a b => a.width.join b.width

/-- The sequence of several trees. -/
def sequence : List Node → Node
  | [] => empty
  | [a] => a
  | a :: b :: rest => seq a (sequence (b :: rest))

/-- The choice between several trees. -/
def choice : List Node → Node
  | [] => empty
  | [a] => a
  | a :: b :: rest => alt a (choice (b :: rest))

end Node

end CssTrim.Pattern
