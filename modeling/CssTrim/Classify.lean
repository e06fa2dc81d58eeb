import CssTrim.Block.Nested
import CssTrim.Policy
import CssTrim.Usage

/-!
# Keeping and dropping blocks

A rule is kept when one of its alternatives is.  An alternative is kept by the
safelist, by the usage, or by a predicate of the policy; one on the blocklist is
not, unless it is on the safelist too.

An at-rule has one alternative, its header.  Where that does not keep it, a
container is kept for the sake of the rules nested in it, to any depth.

In critical mode a style rule is used only when it is listed as written, or when
every compound selector of it is.
-/

namespace CssTrim

/-- Why a block is kept, where a usage is not the reason. -/
inductive Reason where
  | safelist
  | predicate (p : Predicate)
  /-- A nested rule is kept. -/
  | nested
  deriving DecidableEq

/-- The name that a report gives a reason. -/
def Reason.name : Reason → Text
  | safelist => "safelist".toList
  | predicate p => p.name
  | nested => "nested".toList

/-- What becomes of one alternative. -/
inductive Verdict where
  | rejected
  /-- Kept, with a reason if it is not the usage. -/
  | kept (reason : Option Reason)
  deriving DecidableEq

/-- Whether an alternative is kept. -/
def Verdict.isKept : Verdict → Bool
  | rejected => false
  | kept _ => true

/-- The reason of an alternative that is kept. -/
def Verdict.reason? : Verdict → Option Reason
  | rejected => none
  | kept reason => reason

/-- What becomes of a block. -/
structure Classification where
  keep : Bool
  rejected : List Text := []
  reasons : List Reason := []
  deriving DecidableEq

/-- What blocks are judged by. -/
structure Judge where
  usage : Usage
  policy : Policy
  /-- Whether the usage lists the critical selectors. -/
  critical : Bool := false

namespace Usage

/-- Whether documents refer to a simple selector. -/
def has (u : Usage) : SimpleSelector → Bool
  | .className t => u.classes.contains t || u.utilities.contains t
  | .id t => u.ids.contains t
  | .tag t => u.tags.contains t
  | .attr t =>
    u.attributes.contains t || u.attributes.contains ('[' :: Selector.attributeName t ++ [']'])
  | .pseudo _ => false

/-- Whether documents refer to a selector, as written or to some part of it.  A selector without a
part that could be looked for counts as used. -/
def uses (u : Usage) (selector : Text) : Bool :=
  u.raw.contains selector || !Selector.isMatchable (Selector.simples selector) ||
    (Selector.simples selector).any u.has

/-- Whether a selector is listed, as written or in all its compound selectors. -/
def lists (u : Usage) (selector : Text) : Bool :=
  let parts := Selector.compounds selector
  u.raw.contains selector || (parts.length > 1 && parts.all u.raw.contains)

end Usage

namespace Block

/-- The selectors that a block can be kept by. -/
def alternatives (b : Block) : List Text :=
  if b.isAtRule then [b.header] else Selector.alternatives b.selectors

end Block

namespace Judge

/-- Whether the usage keeps an alternative of a block. -/
def isUsed (j : Judge) (b : Block) (selector : Text) : Bool :=
  if b.isAtRule then j.usage.raw.contains selector
  else if j.critical then j.usage.lists selector
  else j.usage.uses selector

/-- What becomes of an alternative of a block. -/
def verdict (j : Judge) (b : Block) (selector : Text) : Verdict :=
  if j.policy.isSafelisted selector then .kept (some .safelist)
  else if j.policy.isBlocklisted selector then .rejected
  else if j.isUsed b selector then .kept none
  else
    match j.policy.preservedBy b selector with
    | some p => .kept (some (.predicate p))
    | none => .rejected

/-- What becomes of a block by its own alternatives. -/
def direct (j : Judge) (b : Block) : Classification where
  keep := b.alternatives.any fun s => (j.verdict b s).isKept
  rejected := b.alternatives.filter fun s => !(j.verdict b s).isKept
  reasons := b.alternatives.filterMap fun s => (j.verdict b s).reason?

/-- Whether nested rules may keep a block. -/
def mayHoldRules (j : Judge) (b : Block) : Bool :=
  b.isAtRule && (b.isContainer || b.kind == .other) && !j.policy.isBlocklisted b.header

/-- What becomes of a block. -/
def classify (j : Judge) (b : Block) : Classification :=
  let own := j.direct b
  if own.keep || !j.mayHoldRules b then own
  else
    let rules := b.segmentInner.attach.filter fun i => !i.1.passthrough
    let kept :=
      if rules.isEmpty then !j.critical
      else rules.any fun ⟨i, _⟩ => i.malformed || (j.classify i).keep
    if kept then { keep := true, reasons := own.reasons ++ [.nested] } else own
termination_by b.body.length
decreasing_by exact Block.length_body_segmentInner_lt ‹_›

end Judge

end CssTrim
