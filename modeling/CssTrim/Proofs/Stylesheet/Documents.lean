import CssTrim.Proofs.Stylesheet.Purge
import CssTrim.Proofs.Usage.Mention

/-!
# Documents count as a set

The usage of several documents does not depend on their order, and naming a
document twice adds nothing.  More documents never give up a block.

* `Usage.ofDocuments_subset_iff`: the usage of documents is the least one that
  has the usage of each of them.  All the rest about lists of documents follows.
* `Stylesheet.retains` says at which places of a stylesheet purging keeps the
  block, and `css_purge` that these blocks are what it writes.
-/

namespace CssTrim

/-! ## The usage of documents -/

namespace TokenSet

theorem union_subset_iff {s t r : TokenSet} : s.union t ⊆ r ↔ s ⊆ r ∧ t ⊆ r := by
  constructor
  · intro h
    exact ⟨fun a ha => h a (mem_union.2 (.inl ha)), fun a ha => h a (mem_union.2 (.inr ha))⟩
  · rintro ⟨hs, ht⟩ a ha
    exact (mem_union.1 ha).elim (hs a) (ht a)

theorem eq_of_subset {s t : TokenSet} (hst : s ⊆ t) (hts : t ⊆ s) : s = t :=
  ext fun a => ⟨hst a, hts a⟩

end TokenSet

namespace Usage

theorem empty_subset (u : Usage) : empty ⊆ u := by
  have hnone : ∀ s : TokenSet, (∅ : TokenSet) ⊆ s := fun _ a ha =>
    absurd ha (TokenSet.not_mem_empty a)
  exact ⟨hnone _, hnone _, hnone _, hnone _, hnone _, hnone _⟩

theorem union_subset_iff {u v w : Usage} : u.union v ⊆ w ↔ u ⊆ w ∧ v ⊆ w := by
  constructor
  · intro h
    have hclasses := TokenSet.union_subset_iff.1 h.classes
    have hids := TokenSet.union_subset_iff.1 h.ids
    have htags := TokenSet.union_subset_iff.1 h.tags
    have hattributes := TokenSet.union_subset_iff.1 h.attributes
    have hutilities := TokenSet.union_subset_iff.1 h.utilities
    have hraw := TokenSet.union_subset_iff.1 h.raw
    exact ⟨⟨hclasses.1, hids.1, htags.1, hattributes.1, hutilities.1, hraw.1⟩,
      ⟨hclasses.2, hids.2, htags.2, hattributes.2, hutilities.2, hraw.2⟩⟩
  · rintro ⟨hu, hv⟩
    exact {
      classes := TokenSet.union_subset_iff.2 ⟨hu.classes, hv.classes⟩
      ids := TokenSet.union_subset_iff.2 ⟨hu.ids, hv.ids⟩
      tags := TokenSet.union_subset_iff.2 ⟨hu.tags, hv.tags⟩
      attributes := TokenSet.union_subset_iff.2 ⟨hu.attributes, hv.attributes⟩
      utilities := TokenSet.union_subset_iff.2 ⟨hu.utilities, hv.utilities⟩
      raw := TokenSet.union_subset_iff.2 ⟨hu.raw, hv.raw⟩ }

/-- Usages that are parts of each other are the same. -/
theorem eq_of_subset {u v : Usage} (huv : u ⊆ v) (hvu : v ⊆ u) : u = v := by
  obtain ⟨_, _, _, _, _, _⟩ := u
  obtain ⟨_, _, _, _, _, _⟩ := v
  rw [mk.injEq]
  exact ⟨TokenSet.eq_of_subset huv.classes hvu.classes, TokenSet.eq_of_subset huv.ids hvu.ids,
    TokenSet.eq_of_subset huv.tags hvu.tags,
    TokenSet.eq_of_subset huv.attributes hvu.attributes,
    TokenSet.eq_of_subset huv.utilities hvu.utilities, TokenSet.eq_of_subset huv.raw hvu.raw⟩

theorem foldl_union_subset_iff {ds : List Document} {u w : Usage} :
    ds.foldl (fun u d => u.union d.usage) u ⊆ w ↔ u ⊆ w ∧ ∀ d ∈ ds, d.usage ⊆ w := by
  induction ds generalizing u with
  | nil => simp
  | cons d ds ih => rw [List.foldl_cons, ih, union_subset_iff, and_assoc, List.forall_mem_cons]

/-- The usage of documents is the least one that has the usage of each of them. -/
theorem ofDocuments_subset_iff {ds : List Document} {w : Usage} :
    ofDocuments ds ⊆ w ↔ ∀ d ∈ ds, d.usage ⊆ w := by
  rw [ofDocuments, foldl_union_subset_iff]
  exact and_iff_right (empty_subset w)

/-- More documents refer to no less. -/
theorem ofDocuments_subset {ds es : List Document} (h : ds ⊆ es) :
    ofDocuments ds ⊆ ofDocuments es := by
  rw [ofDocuments_subset_iff]
  intro d hd
  exact ofDocuments_subset_iff.1 (subset_refl (ofDocuments es)) d (h hd)

/-- Neither the order of documents counts nor how often one is named. -/
theorem ofDocuments_congr {ds es : List Document} (h : ∀ d, d ∈ ds ↔ d ∈ es) :
    ofDocuments ds = ofDocuments es :=
  eq_of_subset (ofDocuments_subset fun d hd => (h d).1 hd)
    (ofDocuments_subset fun d hd => (h d).2 hd)

end Usage

/-! ## Blocks and their places -/

namespace Judge

/-- A judge that is no stricter keeps every block of a list that the other one keeps. -/
theorem keep_decide_of_noStricter {j k : Judge} (h : k.NoStricter j) {b : Block}
    (hkeep : (j.decide b).keep = true) : (k.decide b).keep = true := by
  rw [decide] at hkeep ⊢
  split
  · rfl
  · rename_i hrule
    rw [if_neg hrule] at hkeep
    exact keep_classify_of_noStricter h b hkeep

theorem kept_filter (j : Judge) (bs : List Block) :
    (j.filter bs).kept = bs.map fun b => (j.decide b).keep := by
  rw [filter, Filtered.kept, List.map_map]
  rfl

/-- The blocks that are kept are those at the places that say so. -/
theorem zip_kept_filter (j : Judge) (bs : List Block) :
    ((bs.zip (j.filter bs).kept).filter (·.2)).map (·.1) = (j.filter bs).retained := by
  rw [kept_filter, retained_filter, ← List.map_prod_left_eq_zip, List.filter_map, List.map_map]
  exact List.map_id _

end Judge

namespace Stylesheet

/-- Whether purging keeps the block at each place of a stylesheet. -/
def retains (s : CheckedSettings) (u : Usage) (css : Text) : List Bool :=
  (Judge.filter { usage := u, policy := s.policy } (s.blocksOf css)).kept

/-- Purging writes the blocks at the places that it retains. -/
theorem css_purge (s : CheckedSettings) (u : Usage) (css : Text) :
    (purge s u css).css =
      Block.serialize ((((s.blocksOf css).zip (retains s u css)).filter (·.2)).map (·.1)) := by
  rw [purge_eq, retains, Judge.zip_kept_filter]

/-- A larger usage retains the block at every place where a smaller one does. -/
theorem retains_of_subset {u v : Usage} (h : u ⊆ v) (s : CheckedSettings) {css : Text} {i : Nat}
    (hi : (retains s u css)[i]? = some true) : (retains s v css)[i]? = some true := by
  have hjudge : Judge.NoStricter { usage := v, policy := s.policy }
      { usage := u, policy := s.policy } :=
    Judge.noStricter_of_policy (.refl s.policy)
      (fun _ _ => Judge.isUsed_of_subset h s.policy s.policy false) rfl
  rw [retains, Judge.kept_filter, List.getElem?_map, Option.map_eq_some_iff] at hi ⊢
  obtain ⟨b, hb, hkeep⟩ := hi
  exact ⟨b, hb, Judge.keep_decide_of_noStricter hjudge hkeep⟩

/-- **Documents count as a set, and more of them keep more.**  Lists of the same documents, in any
order and with any repetitions, have the same usage and optimize every stylesheet alike.  Where
purging by the usage of some documents retains the block at a place, it retains it by the usage of
these documents and others. -/
theorem optimize_documents_congr (s : CheckedSettings) (css : Text) (ds es : List Document) :
    ((∀ d, d ∈ ds ↔ d ∈ es) →
      Usage.ofDocuments ds = Usage.ofDocuments es ∧ optimize s ds css = optimize s es css) ∧
    (ds ⊆ es → ∀ i : Nat,
      (retains s (.ofDocuments ds) css)[i]? = some true →
        (retains s (.ofDocuments es) css)[i]? = some true) := by
  constructor
  · intro h
    have husage := Usage.ofDocuments_congr h
    refine ⟨husage, ?_⟩
    rw [optimize, optimize, husage]
  · intro h i hi
    exact retains_of_subset (Usage.ofDocuments_subset h) s hi

/-- Two documents in either order, one of them named twice, and a third one that keeps a rule
more. -/
theorem optimize_documents_congr_swapped :
    let s : CheckedSettings := {}
    let css := ".a\x7b\x7d .b\x7b\x7d .c\x7b\x7d".toList
    let d : Document := ⟨"x.html".toList, some "<p class=\x22a\x22>".toList, none⟩
    let e : Document := ⟨"y.css".toList, some "@apply b;".toList, none⟩
    let f : Document := ⟨[], some "<p class=\x22c\x22>".toList, some .jsx⟩
    (∀ x, x ∈ [d, e] ↔ x ∈ [e, d, e]) ∧ [d, e] ⊆ [e, d, f] ∧
      Usage.ofDocuments [d, e] = Usage.ofDocuments [e, d, e] ∧
        optimize s [d, e] css = optimize s [e, d, e] css ∧
          retains s (.ofDocuments [d, e]) css = [true, true, false] ∧
            (retains s (.ofDocuments [e, d, f]) css)[0]? = some true ∧
              (retains s (.ofDocuments [e, d, f]) css)[1]? = some true := by
  intro s css d e f
  have hsame : ∀ x, x ∈ [d, e] ↔ x ∈ [e, d, e] := by
    intro x
    simp only [List.mem_cons, List.not_mem_nil, or_false]
    tauto
  have hmore : [d, e] ⊆ [e, d, f] := by
    intro x hx
    simp only [List.mem_cons, List.not_mem_nil, or_false] at hx ⊢
    tauto
  have hretains : retains s (.ofDocuments [d, e]) css = [true, true, false] := by decide +kernel
  obtain ⟨husage, hresult⟩ := (optimize_documents_congr s css [d, e] [e, d, e]).1 hsame
  have hkept := (optimize_documents_congr s css [d, e] [e, d, f]).2 hmore
  exact ⟨hsame, hmore, husage, hresult, hretains, hkept 0 (by rw [hretains]; rfl),
    hkept 1 (by rw [hretains]; rfl)⟩

end Stylesheet

end CssTrim
