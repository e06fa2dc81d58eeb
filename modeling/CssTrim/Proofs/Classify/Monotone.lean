import CssTrim.Proofs.Classify

/-!
# More to keep by keeps more

Nothing that argues for keeping a block can make a judge drop it: not a larger
usage, not another predicate, not another entry of the safelist, and not one
entry less of the blocklist.  There are four groups.

* Usages.  `u ⊆ v` compares two usages set by set, and what `u` uses or lists `v`
  uses or lists too.
* Policies.  `q.NoStricter p` says that `q` has the switches and the safelist of `p`
  and more, and the blocklist of `p` or less.
* Judges.  `k.NoStricter j` is what usages and policies come to for one alternative.
  The rest of the argument asks no more of two judges.
* Blocks.  `keep_classify_of_noStricter` is the induction over nesting, and
  `rejected_classify_sublist` says the same of what is rejected.
-/

namespace CssTrim

/-! ## Usages -/

instance : HasSubset TokenSet := ⟨fun s t => ∀ a, a ∈ s → a ∈ t⟩

theorem TokenSet.contains_of_subset {s t : TokenSet} (h : s ⊆ t) {a : Text}
    (ha : s.contains a = true) : t.contains a = true :=
  contains_iff.2 (h a (contains_iff.1 ha))

namespace Usage

/-- Whether each set of a usage is a part of the same set of another one. -/
structure Subset (u v : Usage) : Prop where
  classes : u.classes ⊆ v.classes
  ids : u.ids ⊆ v.ids
  tags : u.tags ⊆ v.tags
  attributes : u.attributes ⊆ v.attributes
  utilities : u.utilities ⊆ v.utilities
  raw : u.raw ⊆ v.raw

instance : HasSubset Usage := ⟨Subset⟩

theorem has_of_subset {u v : Usage} (h : u ⊆ v) {s : SimpleSelector} (hs : u.has s = true) :
    v.has s = true := by
  cases s with
  | className t =>
    rw [has, Bool.or_eq_true] at hs ⊢
    exact hs.imp (TokenSet.contains_of_subset h.classes) (TokenSet.contains_of_subset h.utilities)
  | id t => exact TokenSet.contains_of_subset h.ids hs
  | tag t => exact TokenSet.contains_of_subset h.tags hs
  | attr t =>
    rw [has, Bool.or_eq_true] at hs ⊢
    exact hs.imp (TokenSet.contains_of_subset h.attributes)
      (TokenSet.contains_of_subset h.attributes)
  | pseudo t => exact hs

/-- A usage that has every simple selector of another one, and every selector as written, uses
every selector of it. -/
theorem uses_of_has {u v : Usage} (hraw : u.raw ⊆ v.raw)
    (hhas : ∀ x, u.has x = true → v.has x = true) {s : Text} (hs : u.uses s = true) :
    v.uses s = true := by
  rw [uses, Bool.or_eq_true, Bool.or_eq_true] at hs ⊢
  rcases hs with (hwritten | hnone) | hpart
  · exact .inl (.inl (TokenSet.contains_of_subset hraw hwritten))
  · exact .inl (.inr hnone)
  · obtain ⟨x, hx, hfound⟩ := List.any_eq_true.1 hpart
    exact .inr (List.any_eq_true.2 ⟨x, hx, hhas x hfound⟩)

theorem lists_of_subset {u v : Usage} (hraw : u.raw ⊆ v.raw) {s : Text} (hs : u.lists s = true) :
    v.lists s = true := by
  rw [lists, Bool.or_eq_true, Bool.and_eq_true, List.all_eq_true] at hs ⊢
  rcases hs with hwritten | ⟨hlength, hparts⟩
  · exact .inl (TokenSet.contains_of_subset hraw hwritten)
  · refine .inr ⟨hlength, ?_⟩
    intro part hpart
    exact TokenSet.contains_of_subset hraw (hparts part hpart)

end Usage

/-! ## Policies -/

namespace EntryList

/-- Whether each entry of a list is one of another list. -/
structure Subset (l m : EntryList) : Prop where
  literals : l.literals ⊆ m.literals
  patterns : l.patterns ⊆ m.patterns

instance : HasSubset EntryList := ⟨Subset⟩

theorem covers_iff {l : EntryList} {s : Text} :
    l.covers s = true ↔
      s ∈ l.literals ∨ (∃ x ∈ Selector.simples s, ∃ name ∈ namesOf x, name ∈ l.literals) ∨
        ∃ p ∈ l.patterns, p.isFoundIn s = true := by
  simp [covers, or_assoc]

theorem covers_of_subset {l m : EntryList} (h : l ⊆ m) {s : Text} (hs : l.covers s = true) :
    m.covers s = true := by
  rw [covers_iff] at hs ⊢
  rcases hs with hwritten | ⟨x, hx, name, hname, hlisted⟩ | ⟨p, hp, hfound⟩
  · exact .inl (h.literals hwritten)
  · exact .inr (.inl ⟨x, hx, name, hname, h.literals hlisted⟩)
  · exact .inr (.inr ⟨p, h.patterns hp, hfound⟩)

end EntryList

/-- Whether a policy allows every predicate that another one allows, has its safelist or more, and
its blocklist or less. -/
structure Policy.NoStricter (q p : Policy) : Prop where
  allows : ∀ r, p.allows r = true → q.allows r = true
  safelist : p.safelist ⊆ q.safelist
  blocklist : q.blocklist ⊆ p.blocklist

theorem Policy.NoStricter.refl (p : Policy) : p.NoStricter p where
  allows _ hr := hr
  safelist := ⟨List.Subset.refl _, List.Subset.refl _⟩
  blocklist := ⟨List.Subset.refl _, List.Subset.refl _⟩

namespace Judge

/-! ## Judges -/

/-- Whether a judge keeps every alternative that another one keeps, and looks for nested rules
wherever the other one does. -/
structure NoStricter (k j : Judge) : Prop where
  verdict : ∀ b s, (j.verdict b s).isKept = true → (k.verdict b s).isKept = true
  blocklist : ∀ s, k.policy.isBlocklisted s = true → j.policy.isBlocklisted s = true
  critical : k.critical = j.critical

theorem isUsed_of_subset {u v : Usage} (h : u ⊆ v) (p q : Policy) (critical : Bool) {b : Block}
    {s : Text} (hs : isUsed { usage := u, policy := p, critical } b s = true) :
    isUsed { usage := v, policy := q, critical } b s = true := by
  rw [isUsed] at hs ⊢
  cases hrule : b.isAtRule with
  | true =>
    rw [hrule, if_pos rfl] at hs
    exact TokenSet.contains_of_subset h.raw hs
  | false =>
    rw [hrule] at hs
    cases critical with
    | true => exact Usage.lists_of_subset h.raw hs
    | false => exact Usage.uses_of_has h.raw (fun _ => Usage.has_of_subset h) hs

/-- What a policy lets a judge keep, a policy that is no stricter does too. -/
theorem isKept_verdict_of_policy {j k : Judge} (hpolicy : k.policy.NoStricter j.policy)
    (hused : ∀ b s, j.isUsed b s = true → k.isUsed b s = true) (b : Block) (s : Text)
    (hkept : (j.verdict b s).isKept = true) : (k.verdict b s).isKept = true := by
  rw [isKept_verdict_iff] at hkept ⊢
  rcases hkept with hsafe | ⟨hblock, hkept⟩
  · exact .inl (EntryList.covers_of_subset hpolicy.safelist hsafe)
  · refine .inr ⟨?_, ?_⟩
    · rw [Bool.eq_false_iff] at hblock ⊢
      intro hlisted
      exact hblock (EntryList.covers_of_subset hpolicy.blocklist hlisted)
    · rcases hkept with hs | ⟨q, hallowed, hholds⟩
      · exact .inl (hused b s hs)
      · exact .inr ⟨q, hpolicy.allows q hallowed, hholds⟩

/-- A judge with a policy that is no stricter, who sees every use that the other one sees, is no
stricter. -/
theorem noStricter_of_policy {j k : Judge} (hpolicy : k.policy.NoStricter j.policy)
    (hused : ∀ b s, j.isUsed b s = true → k.isUsed b s = true)
    (hcritical : k.critical = j.critical) : k.NoStricter j where
  verdict := isKept_verdict_of_policy hpolicy hused
  blocklist _ hlisted := EntryList.covers_of_subset hpolicy.blocklist hlisted
  critical := hcritical

/-! ## Blocks -/

variable {j k : Judge}

theorem keep_direct_of_noStricter (h : k.NoStricter j) {b : Block}
    (hkeep : (j.direct b).keep = true) : (k.direct b).keep = true := by
  rw [keep_direct_iff] at hkeep ⊢
  obtain ⟨s, hs, hkept⟩ := hkeep
  exact ⟨s, hs, h.verdict b s hkept⟩

theorem rejected_direct_sublist (h : k.NoStricter j) (b : Block) :
    (k.direct b).rejected.Sublist (j.direct b).rejected := by
  rw [rejected_direct, rejected_direct]
  apply List.monotone_filter_right
  intro s hs
  rw [Bool.not_eq_true', Bool.eq_false_iff] at hs ⊢
  intro hkept
  exact hs (h.verdict b s hkept)

theorem mayHoldRules_of_noStricter (h : k.NoStricter j) {b : Block}
    (hmay : j.mayHoldRules b = true) : k.mayHoldRules b = true := by
  rw [mayHoldRules, Bool.and_eq_true, Bool.not_eq_true', Bool.eq_false_iff] at hmay ⊢
  refine ⟨hmay.1, ?_⟩
  intro hlisted
  exact hmay.2 (h.blocklist b.header hlisted)

/-- **No stricter judge drops a block.**  The induction is over nesting: a container is kept by
itself, for want of nested rules, or for a nested rule, which is then kept as well. -/
theorem keep_classify_of_noStricter (h : k.NoStricter j) (b : Block)
    (hkeep : (j.classify b).keep = true) : (k.classify b).keep = true := by
  induction b using Block.innerRules_induction with
  | step b ih =>
    rw [keep_classify_iff] at hkeep ⊢
    rcases hkeep with hown | ⟨hmay, hnested⟩
    · exact .inl (keep_direct_of_noStricter h hown)
    · refine .inr ⟨mayHoldRules_of_noStricter h hmay, ?_⟩
      rw [keepsNested_iff] at hnested ⊢
      rcases hnested with ⟨hnone, hcritical⟩ | ⟨i, hi, hmalformed | hkept⟩
      · exact .inl ⟨hnone, h.critical.trans hcritical⟩
      · exact .inr ⟨i, hi, .inl hmalformed⟩
      · exact .inr ⟨i, hi, .inr (ih i hi hkept)⟩

/-- A judge that is no stricter rejects a selection of what the other one rejects.  A container
that only the stricter judge keeps for a nested rule would break this, but there is none. -/
theorem rejected_classify_sublist (h : k.NoStricter j) (b : Block) :
    (k.classify b).rejected.Sublist (j.classify b).rejected := by
  cases hrule : b.isAtRule with
  | false =>
    rw [classify_of_not_isAtRule k hrule, classify_of_not_isAtRule j hrule]
    exact rejected_direct_sublist h b
  | true =>
    cases hkeep : (k.classify b).keep with
    | true =>
      rw [rejected_classify_of_keep hrule hkeep]
      exact List.nil_sublist _
    | false =>
      have hdropped : (j.classify b).keep = false := by
        rw [Bool.eq_false_iff] at hkeep ⊢
        intro hkept
        exact hkeep (keep_classify_of_noStricter h b hkept)
      rw [classify_of_not_keep hkeep, classify_of_not_keep hdropped]
      exact rejected_direct_sublist h b

/-- **The judgement is monotone.**  A block that is kept by a usage and a policy is kept by every
larger usage and every policy that is no stricter, in both modes, and what is rejected of it then
is a selection of what was rejected before. -/
theorem classify_monotone {u v : Usage} (husage : u ⊆ v) {p q : Policy}
    (hpolicy : q.NoStricter p) (critical : Bool) (b : Block) :
    let before : Judge := { usage := u, policy := p, critical }
    let after : Judge := { usage := v, policy := q, critical }
    ((before.classify b).keep = true → (after.classify b).keep = true) ∧
      (after.classify b).rejected.Sublist (before.classify b).rejected := by
  intro before after
  have h : after.NoStricter before :=
    noStricter_of_policy hpolicy (fun _ _ => isUsed_of_subset husage p q critical) rfl
  exact ⟨keep_classify_of_noStricter h b, rejected_classify_sublist h b⟩

/-- A media block that is kept for the sake of a nested rule, and then for two of them. -/
theorem classify_monotone_nested :
    let u : Usage := { classes := .ofList ["a".toList] }
    let v : Usage := { classes := .ofList ["b".toList, "a".toList] }
    let p : Policy := { keepMedia := false, blocklist := { literals := [".b".toList] } }
    let q : Policy := { keepMedia := false, safelist := { literals := ["c".toList] } }
    let b : Block :=
      { body := "\x7b.c\x7b\x7d .a, .b\x7b\x7d\x7d".toList, kind := .media,
        condition := "print".toList, keyword := "media".toList,
        source := "@media print\x7b.c\x7b\x7d .a, .b\x7b\x7d\x7d".toList }
    let before : Judge := { usage := u, policy := p, critical := false }
    let after : Judge := { usage := v, policy := q, critical := false }
    b ∈ Block.segment b.source ∧ u ⊆ v ∧ q.NoStricter p ∧
      (before.classify b).keep = true ∧ (after.classify b).keep = true ∧
        (after.classify b).rejected.Sublist (before.classify b).rejected := by
  intro u v p q b before after
  have hb : b ∈ Block.segment b.source := by decide +kernel
  have husage : u ⊆ v := by
    have hnone : (∅ : TokenSet) ⊆ ∅ := fun _ ha => ha
    refine ⟨?_, hnone, hnone, hnone, hnone, hnone⟩
    intro a ha
    rw [TokenSet.mem_ofList] at ha ⊢
    exact List.mem_cons_of_mem _ ha
  have hpolicy : q.NoStricter p := by
    have hallows : ∀ r, p.allows r = true → q.allows r = true := fun _ hr => hr
    exact ⟨hallows, ⟨List.nil_subset _, List.nil_subset _⟩, List.nil_subset _, List.nil_subset _⟩
  have hkeep : (before.classify b).keep = true := by decide +kernel
  obtain ⟨hafter, hrejected⟩ := classify_monotone husage hpolicy false b
  exact ⟨hb, husage, hpolicy, hkeep, hafter hkeep, hrejected⟩

end Judge

end CssTrim
