import CssTrim.Pattern.Match
import CssTrim.Pattern.Reader

/-!
# Patterns

A pattern is a regular expression that has been read.  It keeps the text it was
read from, which is what a report shows of it.

What a pattern means depends on more than its text.  `Host` is what the system
that reads it knows and allows.
-/

namespace CssTrim

/-- A regular expression. -/
structure Pattern where
  source : Text
  node : Pattern.Node
  options : Pattern.Options

namespace Pattern

/-- The system that reads patterns. -/
structure Host where
  /-- The character with a name, if there is one. -/
  named? : Text → Option Char := fun _ => none
  /-- Whether a pattern takes more room on the stack than the system has for it. -/
  exhausts : Text → Bool := fun _ => false

/-- Reads a pattern. -/
def compile (h : Host) (source : Text) : Except Error Pattern :=
  if h.exhausts source then .error ⟨.exhausted, none⟩
  else
    match Reader.pattern.run { named? := h.named?, next := [], rest := source, index := 0 } with
    | .ok (node, s) => .ok { source, node, options := s.options }
    | .error e => .error e

/-- Whether the pattern matches somewhere in a text. -/
def isFoundIn (p : Pattern) (t : Text) : Bool := p.node.matchesFrom p.options [] t

end Pattern

end CssTrim
