import CssTrim.Proofs.Classify.Monotone

/-!
# Mentions

The usage of a list of mentions is the least one that holds each of them.
`add_subset_iff` is the step and `foldl_add_subset_iff` the whole list.  That every
mention of the list counts is the half of it that most proofs need:
`holds_ofMentions`.
-/

namespace CssTrim

namespace TokenSet

theorem subset_refl (s : TokenSet) : s ⊆ s := fun _ h => h

theorem subset_trans {s t u : TokenSet} (h : s ⊆ t) (h' : t ⊆ u) : s ⊆ u :=
  fun a ha => h' a (h a ha)

theorem subset_insert (t : Text) (s : TokenSet) : s ⊆ s.insert t :=
  fun _ ha => mem_insert.2 (.inr ha)

theorem insert_subset_iff {s r : TokenSet} {t : Text} : s.insert t ⊆ r ↔ t ∈ r ∧ s ⊆ r := by
  constructor
  · intro h
    exact ⟨h t (mem_insert.2 (.inl rfl)), fun a ha => h a (mem_insert.2 (.inr ha))⟩
  · rintro ⟨ht, hs⟩ a ha
    rcases mem_insert.1 ha with rfl | ha
    · exact ht
    · exact hs a ha

end TokenSet

namespace Usage

theorem subset_refl (u : Usage) : u ⊆ u where
  classes := TokenSet.subset_refl _
  ids := TokenSet.subset_refl _
  tags := TokenSet.subset_refl _
  attributes := TokenSet.subset_refl _
  utilities := TokenSet.subset_refl _
  raw := TokenSet.subset_refl _

theorem subset_trans {u v w : Usage} (h : u ⊆ v) (h' : v ⊆ w) : u ⊆ w where
  classes := TokenSet.subset_trans h.classes h'.classes
  ids := TokenSet.subset_trans h.ids h'.ids
  tags := TokenSet.subset_trans h.tags h'.tags
  attributes := TokenSet.subset_trans h.attributes h'.attributes
  utilities := TokenSet.subset_trans h.utilities h'.utilities
  raw := TokenSet.subset_trans h.raw h'.raw

theorem subset_addSimple (u : Usage) (x : SimpleSelector) : u ⊆ u.addSimple x := by
  cases x with
  | tag t => exact { subset_refl u with tags := TokenSet.subset_insert t _ }
  | className t => exact { subset_refl u with classes := TokenSet.subset_insert t _ }
  | id t => exact { subset_refl u with ids := TokenSet.subset_insert t _ }
  | attr t => exact { subset_refl u with attributes := TokenSet.subset_insert t _ }
  | pseudo t => exact subset_refl u

/-! ## The least usage -/

/-- Whether a usage records a simple selector.  There is nothing to record of a pseudo-class. -/
def Records (u : Usage) : SimpleSelector → Prop
  | .tag t => t ∈ u.tags
  | .className t => t ∈ u.classes
  | .id t => t ∈ u.ids
  | .attr t => t ∈ u.attributes
  | .pseudo _ => True

/-- Whether a usage holds all that a mention says. -/
def Holds (u : Usage) : Mention → Prop
  | .className t => t ∈ u.classes
  | .id t => t ∈ u.ids
  | .tag t => t ∈ u.tags
  | .attr t => t ∈ u.attributes
  | .utility t => t ∈ u.utilities
  | .raw t => t ∈ u.raw
  | .selector s =>
    Text.squeeze s ≠ [] →
      Text.squeeze s ∈ u.raw ∧ ∀ x ∈ Selector.simples (Text.squeeze s), u.Records x

theorem records_of_subset {u v : Usage} (h : u ⊆ v) {x : SimpleSelector} (hx : u.Records x) :
    v.Records x := by
  cases x with
  | tag t => exact h.tags t hx
  | className t => exact h.classes t hx
  | id t => exact h.ids t hx
  | attr t => exact h.attributes t hx
  | pseudo t => trivial

theorem holds_of_subset {u v : Usage} (h : u ⊆ v) {m : Mention} (hm : u.Holds m) : v.Holds m := by
  cases m with
  | className t => exact h.classes t hm
  | id t => exact h.ids t hm
  | tag t => exact h.tags t hm
  | attr t => exact h.attributes t hm
  | utility t => exact h.utilities t hm
  | raw t => exact h.raw t hm
  | selector s =>
    intro hs
    obtain ⟨hraw, hparts⟩ := hm hs
    exact ⟨h.raw _ hraw, fun x hx => records_of_subset h (hparts x hx)⟩

theorem addSimple_subset_iff {u w : Usage} {x : SimpleSelector} :
    u.addSimple x ⊆ w ↔ u ⊆ w ∧ w.Records x := by
  constructor
  · intro h
    refine ⟨subset_trans (subset_addSimple u x) h, ?_⟩
    cases x with
    | tag t => exact (TokenSet.insert_subset_iff.1 h.tags).1
    | className t => exact (TokenSet.insert_subset_iff.1 h.classes).1
    | id t => exact (TokenSet.insert_subset_iff.1 h.ids).1
    | attr t => exact (TokenSet.insert_subset_iff.1 h.attributes).1
    | pseudo t => trivial
  · rintro ⟨h, hx⟩
    cases x with
    | tag t => exact { h with tags := TokenSet.insert_subset_iff.2 ⟨hx, h.tags⟩ }
    | className t => exact { h with classes := TokenSet.insert_subset_iff.2 ⟨hx, h.classes⟩ }
    | id t => exact { h with ids := TokenSet.insert_subset_iff.2 ⟨hx, h.ids⟩ }
    | attr t => exact { h with attributes := TokenSet.insert_subset_iff.2 ⟨hx, h.attributes⟩ }
    | pseudo t => exact h

theorem foldl_addSimple_subset_iff {u w : Usage} {xs : List SimpleSelector} :
    xs.foldl addSimple u ⊆ w ↔ u ⊆ w ∧ ∀ x ∈ xs, w.Records x := by
  induction xs generalizing u with
  | nil => simp
  | cons x xs ih =>
    rw [List.foldl_cons, ih, addSimple_subset_iff, and_assoc, List.forall_mem_cons]

theorem add_raw_subset_iff {u w : Usage} {t : Text} :
    u.add (.raw t) ⊆ w ↔ u ⊆ w ∧ t ∈ w.raw := by
  constructor
  · intro h
    obtain ⟨hmem, hrest⟩ := TokenSet.insert_subset_iff.1 h.raw
    exact ⟨{ h with raw := hrest }, hmem⟩
  · rintro ⟨h, hmem⟩
    exact { h with raw := TokenSet.insert_subset_iff.2 ⟨hmem, h.raw⟩ }

theorem addSelector_subset_iff {u w : Usage} {s : Text} :
    u.addSelector s ⊆ w ↔ u ⊆ w ∧ w.Holds (.selector s) := by
  rw [addSelector]
  split
  · rename_i hblank
    have hnone : w.Holds (.selector s) := fun hs => absurd (List.isEmpty_iff.1 hblank) hs
    exact (and_iff_left hnone).symm
  · rename_i hsome
    have hs : Text.squeeze s ≠ [] := fun hnone => hsome (List.isEmpty_iff.2 hnone)
    have hraw : { u with raw := u.raw.insert (Text.squeeze s) } ⊆ w ↔
        u ⊆ w ∧ Text.squeeze s ∈ w.raw := add_raw_subset_iff
    rw [foldl_addSimple_subset_iff, hraw, and_assoc, Holds, forall_prop_of_true hs]

theorem add_subset_iff {u w : Usage} {m : Mention} : u.add m ⊆ w ↔ u ⊆ w ∧ w.Holds m := by
  cases m with
  | className t => exact addSimple_subset_iff (x := .className t)
  | id t => exact addSimple_subset_iff (x := .id t)
  | tag t => exact addSimple_subset_iff (x := .tag t)
  | attr t => exact addSimple_subset_iff (x := .attr t)
  | utility t =>
    constructor
    · intro h
      obtain ⟨hmem, hrest⟩ := TokenSet.insert_subset_iff.1 h.utilities
      exact ⟨{ h with utilities := hrest }, hmem⟩
    · rintro ⟨h, hmem⟩
      exact { h with utilities := TokenSet.insert_subset_iff.2 ⟨hmem, h.utilities⟩ }
  | raw t => exact add_raw_subset_iff
  | selector s => exact addSelector_subset_iff

/-- The usage of mentions is the least one that holds each of them. -/
theorem foldl_add_subset_iff {u w : Usage} {ms : List Mention} :
    ms.foldl add u ⊆ w ↔ u ⊆ w ∧ ∀ m ∈ ms, w.Holds m := by
  induction ms generalizing u with
  | nil => simp
  | cons m ms ih => rw [List.foldl_cons, ih, add_subset_iff, and_assoc, List.forall_mem_cons]

theorem holds_ofMentions {ms : List Mention} {m : Mention} (hm : m ∈ ms) :
    (ofMentions ms).Holds m :=
  (foldl_add_subset_iff.1 (subset_refl (ofMentions ms))).2 m hm

theorem mem_classes_ofMentions {ms : List Mention} {t : Text} (h : .className t ∈ ms) :
    t ∈ (ofMentions ms).classes :=
  holds_ofMentions h

theorem mem_ids_ofMentions {ms : List Mention} {t : Text} (h : .id t ∈ ms) :
    t ∈ (ofMentions ms).ids :=
  holds_ofMentions h

end Usage

end CssTrim
