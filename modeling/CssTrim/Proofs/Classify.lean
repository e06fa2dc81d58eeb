import CssTrim.Filter
import Mathlib.Data.List.Basic

/-!
# When a block is kept

What a judge says of a block, in the form that the proofs about judges use.
There are three groups.

* Alternatives.  `isKept_verdict_iff` puts the order of safelist, blocklist, usage
  and predicates into one formula, and `keep_direct_iff` says that one kept
  alternative is enough for its block.
* Nested rules.  `Block.innerRules` are the rules that a judge looks at inside a
  block, and `Block.innerRules_induction` is the induction over nesting.
* The judgement.  `classify_eq` is the recursion without the bounds that it
  ends by.  `keep_classify_iff` says when a block is kept, and the lemmas behind it
  what is rejected of it.
-/

namespace CssTrim

/-! ## Alternatives -/

namespace Policy

theorem isSome_preservedBy_iff {p : Policy} {b : Block} {s : Text} :
    (p.preservedBy b s).isSome = true ↔ ∃ q, p.allows q = true ∧ q.holds b s = true := by
  rw [preservedBy, List.find?_isSome]
  constructor
  · rintro ⟨q, -, hq⟩
    exact ⟨q, by simpa using hq⟩
  · rintro ⟨q, hallowed, hholds⟩
    have hmem : q ∈ Predicate.all := by cases q <;> decide
    exact ⟨q, hmem, by simp [hallowed, hholds]⟩

end Policy

namespace Judge

/-- An alternative is kept by the safelist, or by the usage or a predicate if the blocklist does
not give it up. -/
theorem isKept_verdict_iff {j : Judge} {b : Block} {s : Text} :
    (j.verdict b s).isKept = true ↔
      j.policy.isSafelisted s = true ∨
        j.policy.isBlocklisted s = false ∧
          (j.isUsed b s = true ∨ ∃ q, j.policy.allows q = true ∧ q.holds b s = true) := by
  rw [← Policy.isSome_preservedBy_iff, verdict]
  cases hsafe : j.policy.isSafelisted s with
  | true => simp [Verdict.isKept]
  | false =>
    cases hblock : j.policy.isBlocklisted s with
    | true => simp [Verdict.isKept]
    | false =>
      cases hused : j.isUsed b s with
      | true => simp [Verdict.isKept]
      | false => cases j.policy.preservedBy b s <;> simp [Verdict.isKept]

theorem keep_direct_iff {j : Judge} {b : Block} :
    (j.direct b).keep = true ↔ ∃ s ∈ b.alternatives, (j.verdict b s).isKept = true := by
  rw [direct, List.any_eq_true]

theorem rejected_direct (j : Judge) (b : Block) :
    (j.direct b).rejected = b.alternatives.filter fun s => !(j.verdict b s).isKept := rfl

/-- An at-rule has its header as its only alternative, so that nothing of it is rejected when it
is kept by itself. -/
theorem rejected_direct_of_isAtRule {j : Judge} {b : Block} (hb : b.isAtRule = true)
    (hkeep : (j.direct b).keep = true) : (j.direct b).rejected = [] := by
  have hheader : b.alternatives = [b.header] := by rw [Block.alternatives, if_pos hb]
  obtain ⟨s, hs, hkept⟩ := keep_direct_iff.1 hkeep
  rw [hheader, List.mem_singleton] at hs
  subst hs
  rw [rejected_direct, hheader, List.filter_singleton, hkept]
  rfl

end Judge

/-! ## Nested rules -/

namespace Block

/-- The rules that are nested in a block. -/
def innerRules (b : Block) : List Block := b.segmentInner.filter fun i => !i.passthrough

theorem mem_innerRules {b i : Block} :
    i ∈ b.innerRules ↔ i ∈ b.segmentInner ∧ i.passthrough = false := by
  rw [innerRules, List.mem_filter, Bool.not_eq_true']

/-- Induction over the rules that are nested in a block, to any depth. -/
@[elab_as_elim]
theorem innerRules_induction {motive : Block → Prop}
    (step : ∀ b : Block, (∀ i ∈ b.innerRules, motive i) → motive b) (b : Block) : motive b :=
  step b fun i _ => innerRules_induction step i
termination_by b.body.length
decreasing_by
  rename_i hi
  exact length_body_segmentInner_lt (mem_innerRules.1 hi).1

end Block

namespace Judge

/-- Whether a judge keeps a block for the sake of the rules that are nested in it. -/
def keepsNested (j : Judge) (b : Block) : Bool :=
  if b.innerRules.isEmpty then !j.critical
  else b.innerRules.any fun i => i.malformed || (j.classify i).keep

theorem keepsNested_iff {j : Judge} {b : Block} :
    j.keepsNested b = true ↔
      b.innerRules = [] ∧ j.critical = false ∨
        ∃ i ∈ b.innerRules, i.malformed = true ∨ (j.classify i).keep = true := by
  rw [keepsNested]
  by_cases hnone : b.innerRules = []
  · simp [hnone]
  · simp [hnone]

/-! ## The judgement -/

/-- What becomes of a block, said of the rules that are nested in it. -/
theorem classify_eq (j : Judge) (b : Block) :
    j.classify b =
      if (j.direct b).keep || !j.mayHoldRules b then j.direct b
      else if j.keepsNested b then
        { keep := true, reasons := (j.direct b).reasons ++ [.nested] }
      else j.direct b := by
  have hrules : (b.segmentInner.attach.filter fun i => !i.1.passthrough).map Subtype.val =
      b.innerRules := by
    have hmap := List.filter_map (f := Subtype.val) (p := fun i : Block => !i.passthrough)
      (l := b.segmentInner.attach)
    rw [List.attach_map_subtype_val] at hmap
    exact hmap.symm
  rw [classify, keepsNested, ← hrules, List.isEmpty_map, List.any_map]
  rfl

/-- A block is kept by itself, or for the sake of its nested rules if it may hold rules. -/
theorem keep_classify_iff {j : Judge} {b : Block} :
    (j.classify b).keep = true ↔
      (j.direct b).keep = true ∨ j.mayHoldRules b = true ∧ j.keepsNested b = true := by
  rw [classify_eq]
  cases hown : (j.direct b).keep with
  | true => simp [hown]
  | false =>
    cases hmay : j.mayHoldRules b with
    | false => simp [hown]
    | true => cases hnested : j.keepsNested b <;> simp [hown]

/-- A style rule is judged by itself. -/
theorem classify_of_not_isAtRule (j : Judge) {b : Block} (hb : b.isAtRule = false) :
    j.classify b = j.direct b := by
  have hmay : j.mayHoldRules b = false := by rw [mayHoldRules, hb, Bool.false_and, Bool.false_and]
  rw [classify_eq, hmay, Bool.not_false, Bool.or_true, if_pos rfl]

/-- A block that is dropped is judged by itself, since its nested rules could only keep it. -/
theorem classify_of_not_keep {j : Judge} {b : Block} (h : (j.classify b).keep = false) :
    j.classify b = j.direct b := by
  rw [classify_eq] at h ⊢
  split
  · rfl
  · rename_i hown
    rw [if_neg hown] at h
    split
    · rename_i hnested
      rw [if_pos hnested] at h
      exact absurd h.symm Bool.false_ne_true
    · rfl

/-- Nothing is rejected of an at-rule that is kept. -/
theorem rejected_classify_of_keep {j : Judge} {b : Block} (hb : b.isAtRule = true)
    (hkeep : (j.classify b).keep = true) : (j.classify b).rejected = [] := by
  rw [classify_eq] at hkeep ⊢
  split
  · rename_i hown
    rw [if_pos hown] at hkeep
    exact rejected_direct_of_isAtRule hb hkeep
  · rename_i hown
    rw [if_neg hown] at hkeep
    split
    · rfl
    · rename_i hnested
      rw [if_neg hnested] at hkeep
      exact rejected_direct_of_isAtRule hb hkeep

end Judge

end CssTrim
