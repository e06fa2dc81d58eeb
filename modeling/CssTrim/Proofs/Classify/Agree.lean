import CssTrim.Proofs.Block.Serialize
import CssTrim.Proofs.Classify
import CssTrim.Proofs.Filter

/-!
# Judging blocks that say the same

A judge looks at what a block says and not at where it stands.  There are two
groups.

* Well-formed blocks.  Those that agree have the same alternatives, the same
  verdict on each of them and the same nested rules, so that `classify_eq_of_agrees`
  needs no induction.
* Lists.  The body of a malformed block may have lost blanks, but such a block is
  always kept.  `decide_eq_of_agrees` therefore holds of all blocks, and
  `forall₂_agrees_retained` of lists of them.
-/

namespace CssTrim

namespace Block

/-! ## Well-formed blocks -/

theorem Agrees.isAtRule {b c : Block} (h : b.Agrees c) : b.isAtRule = c.isAtRule := by
  unfold Block.isAtRule
  rw [h.keyword]

theorem Agrees.alternatives {b c : Block} (h : b.Agrees c) :
    b.alternatives = c.alternatives := by
  unfold Block.alternatives
  rw [h.isAtRule, h.header, h.selectors]

theorem Agrees.innerRules {b c : Block} (h : b.Agrees c) (hc : c.malformed = false) :
    b.innerRules = c.innerRules := by
  unfold Block.innerRules segmentInner segmentInnerWith
  rw [h.passthrough, h.body hc, h.inner hc]

end Block

open Block (Agrees)

theorem Predicate.holds_eq_of_agrees {b c : Block} (h : b.Agrees c) (hc : c.malformed = false)
    (q : Predicate) (s : Text) : q.holds b s = q.holds c s := by
  unfold holds
  rw [h.body hc, h.kind]

namespace Judge

theorem verdict_eq_of_agrees (j : Judge) {b c : Block} (h : b.Agrees c)
    (hc : c.malformed = false) (s : Text) : j.verdict b s = j.verdict c s := by
  have hused : j.isUsed b s = j.isUsed c s := by
    unfold isUsed
    rw [h.isAtRule]
  have hpredicate : j.policy.preservedBy b s = j.policy.preservedBy c s := by
    unfold Policy.preservedBy
    simp only [Predicate.holds_eq_of_agrees h hc]
  unfold verdict
  rw [hused, hpredicate]

theorem direct_eq_of_agrees (j : Judge) {b c : Block} (h : b.Agrees c)
    (hc : c.malformed = false) : j.direct b = j.direct c := by
  unfold direct
  simp only [verdict_eq_of_agrees j h hc, h.alternatives]

theorem mayHoldRules_eq_of_agrees (j : Judge) {b c : Block} (h : b.Agrees c) :
    j.mayHoldRules b = j.mayHoldRules c := by
  unfold mayHoldRules Block.isContainer
  rw [h.isAtRule, h.keyword, h.kind, h.header]

/-- A judge says the same of well-formed blocks that agree. -/
theorem classify_eq_of_agrees (j : Judge) {b c : Block} (h : b.Agrees c)
    (hc : c.malformed = false) : j.classify b = j.classify c := by
  have hnested : j.keepsNested b = j.keepsNested c := by
    unfold keepsNested
    rw [h.innerRules hc]
  rw [classify_eq, classify_eq, direct_eq_of_agrees j h hc, mayHoldRules_eq_of_agrees j h, hnested]

/-! ## Lists -/

/-- A judge decides the same of blocks that agree. -/
theorem decide_eq_of_agrees (j : Judge) {b c : Block} (h : b.Agrees c) :
    j.decide b = j.decide c := by
  unfold decide
  rw [h.passthrough, h.malformed]
  cases hc : c.malformed with
  | true => rw [Bool.or_true, if_pos rfl, if_pos rfl]
  | false => rw [classify_eq_of_agrees j h hc]

/-- Of lists of blocks that agree, the blocks that are kept agree. -/
theorem forall₂_agrees_retained (j : Judge) {bs cs : List Block}
    (h : List.Forall₂ Agrees bs cs) :
    List.Forall₂ Agrees (j.filter bs).retained (j.filter cs).retained := by
  rw [retained_filter, retained_filter]
  apply List.rel_filter _ h
  intro b c hbc
  show (j.decide b).keep = true ↔ (j.decide c).keep = true
  rw [decide_eq_of_agrees j hbc]

end Judge

end CssTrim
