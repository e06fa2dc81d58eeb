import CssTrim.Proofs.Block.Segment
import CssTrim.Proofs.Classify
import CssTrim.Proofs.Filter
import Mathlib.Logic.Relation

/-!
# A used class keeps the block around its rule

A rule with a class that a document refers to is never lost, however deep it is
nested, whatever the switches of the policy.  Only the blocklist can give it up.

* The way in.  `Policy.Enters` is one step from an at-rule to a rule nested in it,
  and `isContainer_or_other` says why a judge takes that step: an at-rule that was
  read from a text is a container, or of a kind that needs no treatment, or it
  holds keyframes or a font.
* The way out.  `keep_classify_of_enters` is one step and `keep_classify_of_chain`
  the whole chain.
* `mem_retained_of_used_class` starts the chain at a block of a stylesheet and
  ends it at a style rule with a used class.
-/

namespace CssTrim

/-! ## The way in -/

/-- Whether a rule is nested in an at-rule that the policy lets a judge look into. -/
structure Policy.Enters (p : Policy) (b i : Block) : Prop where
  isAtRule : b.isAtRule = true
  not_keyframes : b.kind ≠ .keyframes
  not_fontFace : b.kind ≠ .fontFace
  not_blocklisted : p.isBlocklisted b.header = false
  nested : i ∈ b.segmentInner
  not_passthrough : i.passthrough = false

namespace Block

/-- The kinds of at-rules that have no rules of their own are those of keyframes and fonts. -/
theorem isContainer_or_other {b : Block} (hkind : b.kind = .ofKeyword b.keyword)
    (hrule : b.isAtRule = true) (hkeyframes : b.kind ≠ .keyframes) (hfont : b.kind ≠ .fontFace) :
    b.isContainer = true ∨ b.kind = .other := by
  have hkeyword : ¬b.keyword.isEmpty = true := by simpa [isAtRule] using hrule
  rw [hkind, AtRuleKind.ofKeyword, if_neg hkeyword] at hkeyframes hfont ⊢
  rw [isContainer]
  dsimp only at hkeyframes hfont ⊢
  generalize AtRuleKind.stripVendor (Text.lower b.keyword) = plain at hkeyframes hfont ⊢
  by_cases hmedia : plain = "media".toList
  · subst hmedia
    exact .inl (by decide)
  by_cases hsupports : plain = "supports".toList
  · subst hsupports
    exact .inl (by decide)
  -- what is left is neither of the two, and the hypotheses rule out the next two
  right
  rw [if_neg hmedia, if_neg hsupports] at hkeyframes hfont ⊢
  by_cases hk : plain = "keyframes".toList
  · exact absurd (if_pos hk) hkeyframes
  rw [if_neg hk] at hfont ⊢
  by_cases hf : plain = "font-face".toList
  · exact absurd (if_pos hf) hfont
  · exact if_neg hf

end Block

/-! ## The way out -/

namespace Usage

/-- A usage uses every selector with a part that it has. -/
theorem uses_of_mem_simples {u : Usage} {s : Text} {x : SimpleSelector}
    (hx : x ∈ Selector.simples s) (hhas : u.has x = true) : u.uses s = true := by
  rw [uses, Bool.or_eq_true]
  exact .inr (List.any_eq_true.2 ⟨x, hx, hhas⟩)

theorem has_className_iff {u : Usage} {c : Text} :
    u.has (.className c) = true ↔ c ∈ u.classes ∨ c ∈ u.utilities := by
  rw [has, Bool.or_eq_true, TokenSet.contains_iff, TokenSet.contains_iff]

theorem has_id_iff {u : Usage} {i : Text} : u.has (.id i) = true ↔ i ∈ u.ids := by
  rw [has, TokenSet.contains_iff]

end Usage

namespace Judge

/-- An at-rule that a judge looks into is kept for a nested rule that is kept. -/
theorem keep_classify_of_enters {j : Judge} {b i : Block} (hkind : b.kind = .ofKeyword b.keyword)
    (h : j.policy.Enters b i) (hkeep : (j.classify i).keep = true) :
    (j.classify b).keep = true := by
  have hmay : j.mayHoldRules b = true := by
    rw [mayHoldRules, h.isAtRule, h.not_blocklisted, Bool.true_and, Bool.not_false, Bool.and_true,
      Bool.or_eq_true, beq_iff_eq]
    exact Block.isContainer_or_other hkind h.isAtRule h.not_keyframes h.not_fontFace
  have hmem : i ∈ b.innerRules := Block.mem_innerRules.2 ⟨h.nested, h.not_passthrough⟩
  have hnested : j.keepsNested b = true := keepsNested_iff.2 (.inr ⟨i, hmem, .inr hkeep⟩)
  exact keep_classify_iff.2 (.inr ⟨hmay, hnested⟩)

/-- A block is kept for a rule that it holds at any depth, if a judge looks into every at-rule on
the way.  The induction starts at the outermost block. -/
theorem keep_classify_of_chain {j : Judge} {b₀ b : Block} (hkind : b₀.kind = .ofKeyword b₀.keyword)
    (hchain : Relation.ReflTransGen j.policy.Enters b₀ b) (hkeep : (j.classify b).keep = true) :
    (j.classify b₀).keep = true := by
  induction hchain using Relation.ReflTransGen.head_induction_on with
  | refl => exact hkeep
  | head h _ ih =>
    have hinner := Block.kind_of_mem_segment (Block.mem_segment_of_mem_segmentInner h.nested)
    exact keep_classify_of_enters hkind h (ih hinner)

/-- A style rule is kept for an alternative with a part that documents refer to, unless the
alternative is blocklisted. -/
theorem keep_classify_of_has {u : Usage} {p : Policy} {b : Block} {s : Text} {x : SimpleSelector}
    (hstyle : b.isAtRule = false) (hs : s ∈ Selector.alternatives b.selectors)
    (hlisted : p.isBlocklisted s = false) (hx : x ∈ Selector.simples s) (hhas : u.has x = true) :
    (classify { usage := u, policy := p } b).keep = true := by
  have halternative : s ∈ b.alternatives := by
    rw [Block.alternatives, hstyle]
    exact hs
  have hseen : isUsed { usage := u, policy := p } b s = true := by
    rw [isUsed, hstyle]
    exact Usage.uses_of_mem_simples hx hhas
  have hkept := isKept_verdict_iff.2 (.inr ⟨hlisted, .inl hseen⟩)
  exact keep_classify_iff.2 (.inl (keep_direct_iff.2 ⟨s, halternative, hkept⟩))

/-- A style rule with a used class is kept, unless all alternatives with one are blocklisted. -/
theorem keep_classify_of_className {u : Usage} {p : Policy} {b : Block} {s c : Text}
    (hstyle : b.isAtRule = false) (hs : s ∈ Selector.alternatives b.selectors)
    (hlisted : p.isBlocklisted s = false) (hc : .className c ∈ Selector.simples s)
    (hused : c ∈ u.classes ∨ c ∈ u.utilities) :
    (classify { usage := u, policy := p } b).keep = true :=
  keep_classify_of_has hstyle hs hlisted hc (Usage.has_className_iff.2 hused)

/-- A block that is kept is among those that a judge retains. -/
theorem mem_retained_of_keep {j : Judge} {bs : List Block} {b : Block} (hb : b ∈ bs)
    (hkeep : (j.classify b).keep = true) : b ∈ (j.filter bs).retained := by
  rw [retained_filter, List.mem_filter]
  refine ⟨hb, ?_⟩
  rw [decide]
  split
  · rfl
  · exact hkeep

/-- **A used class keeps the block around its rule.**  A block of a stylesheet is kept when a chain
of at-rules, each of which the policy lets a judge look into, leads from it to a style rule with a
used class.  The chain may be empty, and the switches of the policy do not matter. -/
theorem mem_retained_of_used_class {u : Usage} {p : Policy} {css : Text} {b₀ b : Block}
    (hb₀ : b₀ ∈ Block.segment css) (hchain : Relation.ReflTransGen p.Enters b₀ b)
    (hstyle : b.isAtRule = false) {s c : Text} (hs : s ∈ Selector.alternatives b.selectors)
    (hlisted : p.isBlocklisted s = false) (hc : .className c ∈ Selector.simples s)
    (hused : c ∈ u.classes ∨ c ∈ u.utilities) :
    b₀ ∈ (filter { usage := u, policy := p } (Block.segment css)).retained := by
  have hrule := keep_classify_of_className hstyle hs hlisted hc hused
  have hkeep := keep_classify_of_chain (Block.kind_of_mem_segment hb₀) hchain hrule
  rw [retained_filter, List.mem_filter]
  refine ⟨hb₀, ?_⟩
  rw [decide]
  split
  · rfl
  · exact hkeep

/-- A utility class two at-rules deep, with every predicate switched off and the other alternative
of its rule on the blocklist. -/
theorem mem_retained_of_used_class_nested :
    let u : Usage := { utilities := .ofList ["a".toList] }
    let p : Policy :=
      { keepVariables := false, keepKeyframes := false, keepFontFace := false,
        keepInteractive := false, keepMedia := false, keepRoot := false,
        blocklist := { literals := [".b".toList] } }
    let b₂ : Block :=
      { selectors := ".a:hover, .b".toList, body := "\x7b\x7d".toList,
        condition := ".a:hover, .b".toList, source := ".a:hover, .b\x7b\x7d".toList }
    let b₁ : Block :=
      { body := '{' :: b₂.source ++ ['}'], kind := .supports, condition := "(x)".toList,
        keyword := "supports".toList, source := "@supports (x)\x7b".toList ++ b₂.source ++ ['}'] }
    let b₀ : Block :=
      { body := '{' :: b₁.source ++ ['}'], kind := .media, condition := "print".toList,
        keyword := "media".toList, source := "@media print\x7b".toList ++ b₁.source ++ ['}'] }
    p.Enters b₀ b₁ ∧ p.Enters b₁ b₂ ∧ ".a:hover".toList ∈ Selector.alternatives b₂.selectors ∧
      p.isBlocklisted ".a:hover".toList = false ∧
        .className "a".toList ∈ Selector.simples ".a:hover".toList ∧ "a".toList ∈ u.utilities ∧
          b₀ ∈ (filter { usage := u, policy := p } (Block.segment b₀.source)).retained := by
  intro u p b₂ b₁ b₀
  have hb₀ : b₀ ∈ Block.segment b₀.source := by decide +kernel
  have hfirst : p.Enters b₀ b₁ :=
    ⟨rfl, by decide, by decide, by decide +kernel, by decide +kernel, rfl⟩
  have hsecond : p.Enters b₁ b₂ :=
    ⟨rfl, by decide, by decide, by decide +kernel, by decide +kernel, rfl⟩
  have hs : ".a:hover".toList ∈ Selector.alternatives b₂.selectors := by decide +kernel
  have hlisted : p.isBlocklisted ".a:hover".toList = false := by decide +kernel
  have hc : .className "a".toList ∈ Selector.simples ".a:hover".toList := by decide +kernel
  have hused : "a".toList ∈ u.utilities := TokenSet.mem_ofList.2 List.mem_cons_self
  have hchain : Relation.ReflTransGen p.Enters b₀ b₂ := .head hfirst (.single hsecond)
  exact ⟨hfirst, hsecond, hs, hlisted, hc, hused,
    mem_retained_of_used_class hb₀ hchain rfl hs hlisted hc (.inr hused)⟩

end Judge

end CssTrim
