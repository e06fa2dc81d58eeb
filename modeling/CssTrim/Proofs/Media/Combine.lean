import CssTrim.Media
import CssTrim.Proofs.Block.Serialize
import Mathlib.Data.List.Basic

/-!
# Merging media blocks that say the same

Merging looks at what blocks say and not at where they stand.  There are three
groups.

* Views.  A new body shows in the text of a block behind the header, and blocks
  that agree have the same query.
* Groups.  Only well-formed blocks have a query, so groups of blocks that agree
  are merged into the same text.
* `map_text_combine` says the same of whole lists, and
  `saved_add_length_combine` counts the blocks that merging saves.
-/

namespace CssTrim

namespace Block

/-! ## Views -/

/-- Blanks in front of the first text do not show in the new one. -/
theorem text_withBody (b : Block) (body : Text) :
    (b.withBody body).text = Text.trim (b.header ++ ' ' :: body) := by
  have hlead : Text.isBlankText (b.source.takeWhile Text.isBlank) := List.all_takeWhile
  rw [text, withBody, List.append_assoc, Text.trim_append_of_isBlankText hlead]

end Block

namespace Media

open Block (Agrees)

theorem query?_eq_of_agrees {b c : Block} (h : b.Agrees c) : query? b = query? c := by
  unfold query?
  rw [h.kind, h.malformed, h.passthrough, h.condition]

/-- Only well-formed blocks have a query. -/
theorem malformed_of_query?_eq_some {b : Block} {q : Text} (h : query? b = some q) :
    b.malformed = false := by
  rw [query?, Option.ite_none_right_eq_some] at h
  simpa using h.1.2.1

/-! ## Groups of blocks that agree -/

theorem malformed_of_mem_membersOf {q : Text} {bs : List Block} {b : Block}
    (h : b ∈ membersOf q bs) : b.malformed = false := by
  have hquery := (List.mem_filter.1 h).2
  exact malformed_of_query?_eq_some (beq_iff_eq.1 hquery)

theorem forall₂_agrees_membersOf (q : Text) {bs cs : List Block}
    (h : List.Forall₂ Agrees bs cs) : List.Forall₂ Agrees (membersOf q bs) (membersOf q cs) := by
  apply List.rel_filter _ h
  intro b c hbc
  show (query? b == some q) = true ↔ (query? c == some q) = true
  rw [query?_eq_of_agrees hbc]

theorem forall₂_agrees_withoutQuery (q : Text) {bs cs : List Block}
    (h : List.Forall₂ Agrees bs cs) :
    List.Forall₂ Agrees (withoutQuery q bs) (withoutQuery q cs) := by
  apply List.rel_filter _ h
  intro b c hbc
  show (query? b != some q) = true ↔ (query? c != some q) = true
  rw [query?_eq_of_agrees hbc]

theorem map_trim_inner_eq {bs cs : List Block} (h : List.Forall₂ Agrees bs cs)
    (hcs : ∀ c ∈ cs, c.malformed = false) :
    (bs.map fun b => Text.trim b.inner) = cs.map fun c => Text.trim c.inner := by
  induction h with
  | nil => rfl
  | @cons b c bs cs hbc _ ih =>
    rw [List.forall_mem_cons] at hcs
    rw [List.map_cons, List.map_cons, hbc.inner hcs.1, ih hcs.2]

/-- Groups of well-formed blocks that agree are merged into the same text. -/
theorem text_merged_eq {g h : Group} (hfirst : g.first.Agrees h.first)
    (hothers : List.Forall₂ Agrees g.others h.others)
    (hwell : ∀ c ∈ h.members, c.malformed = false) : g.merged.text = h.merged.text := by
  have hmembers : List.Forall₂ Agrees g.members h.members := .cons hfirst hothers
  have hempty : g.others.isEmpty = h.others.isEmpty := by
    rw [Bool.eq_iff_iff, List.isEmpty_iff_length_eq_zero, List.isEmpty_iff_length_eq_zero,
      hothers.length_eq]
  unfold Group.merged
  rw [hempty]
  by_cases hnone : h.others.isEmpty
  · rw [if_pos hnone, if_pos hnone]
    exact hfirst.text
  · rw [if_neg hnone, if_neg hnone]
    dsimp only
    rw [Block.text_withBody, Block.text_withBody, map_trim_inner_eq hmembers hwell, hfirst.header]

/-! ## Lists of blocks that agree -/

/-- **Merging does not see where blocks stand.**  Lists of blocks that agree are merged into the
same texts. -/
theorem map_text_combine {bs cs : List Block} (h : List.Forall₂ Agrees bs cs) :
    (combine bs).map Block.text = (combine cs).map Block.text := by
  fun_induction combine bs generalizing cs with
  | case1 =>
    cases h
    rw [combine]
  | case2 b rest hquery ih =>
    obtain _ | ⟨hbc, hrest⟩ := h
    rw [query?_eq_of_agrees hbc] at hquery
    rw [combine, hquery, List.map_cons, List.map_cons, hbc.text, ih hrest]
  | case3 b rest q hquery ih =>
    obtain _ | ⟨hbc, hrest⟩ := h
    rename_i c cs
    rw [query?_eq_of_agrees hbc] at hquery
    have hwell : ∀ d ∈ c :: membersOf q cs, d.malformed = false :=
      List.forall_mem_cons.2
        ⟨malformed_of_query?_eq_some hquery, fun _ hd => malformed_of_mem_membersOf hd⟩
    have hmerged := @text_merged_eq ⟨q, b, membersOf q rest⟩ ⟨q, c, membersOf q cs⟩ hbc
      (forall₂_agrees_membersOf q hrest) hwell
    rw [combine, hquery, List.map_cons, List.map_cons, hmerged,
      ih (forall₂_agrees_withoutQuery q hrest)]

theorem length_membersOf_add_length_withoutQuery (q : Text) (bs : List Block) :
    (membersOf q bs).length + (withoutQuery q bs).length = bs.length :=
  (List.length_eq_length_filter_add fun b => query? b == some q).symm

theorem saved_cons_of_none {b : Block} (h : query? b = none) (rest : List Block) :
    saved (b :: rest) = saved rest := by
  simp only [saved, groups, h]

theorem saved_cons_of_some {b : Block} {q : Text} (h : query? b = some q) (rest : List Block) :
    saved (b :: rest) = (membersOf q rest).length + saved (withoutQuery q rest) := by
  simp only [saved, groups, h, List.flatMap_cons, List.length_append]

/-- Merging makes a list shorter by the blocks that it saves. -/
theorem saved_add_length_combine (bs : List Block) :
    saved bs + (combine bs).length = bs.length := by
  fun_induction combine bs with
  | case1 =>
    rw [saved, groups]
    rfl
  | case2 b rest hquery ih =>
    rw [saved_cons_of_none hquery, List.length_cons, List.length_cons]
    omega
  | case3 b rest q hquery ih =>
    have hsplit := length_membersOf_add_length_withoutQuery q rest
    rw [saved_cons_of_some hquery, List.length_cons, List.length_cons]
    omega

end Media

end CssTrim
