import CssTrim.Proofs.Usage.Mention
import CssTrim.Usage.Document

/-!
# What a framework adds

A document of any kind is read for all that a document of no framework is read for.
The kinds of the component frameworks only add mentions.  The kind of the utility
framework takes some classes for utilities, so that the classes of a document of no
framework are then among its classes and its utilities.

A judge asks for a class in both sets.  `Usage.withUtilities` counts the utilities
among the classes, which no judge can tell from the usage itself.
-/

namespace CssTrim

/-! ## Utilities as classes -/

namespace Usage

/-- The usage with its utilities counted among its classes. -/
def withUtilities (u : Usage) : Usage := { u with classes := u.classes.union u.utilities }

theorem subset_withUtilities (u : Usage) : u ⊆ u.withUtilities :=
  { subset_refl u with classes := fun _ ha => TokenSet.mem_union.2 (.inl ha) }

@[simp] theorem has_withUtilities (u : Usage) (x : SimpleSelector) :
    u.withUtilities.has x = u.has x := by
  cases x with
  | className t =>
    rw [Bool.eq_iff_iff]
    simp [withUtilities, has]
  | id t => rfl
  | tag t => rfl
  | attr t => rfl
  | pseudo t => rfl

theorem isUsed_withUtilities (u : Usage) (p : Policy) (critical : Bool) (b : Block) (s : Text) :
    Judge.isUsed { usage := u.withUtilities, policy := p, critical } b s =
      Judge.isUsed { usage := u, policy := p, critical } b s := by
  have hhas : u.withUtilities.has = u.has := funext u.has_withUtilities
  have huses : u.withUtilities.uses s = u.uses s := by
    unfold uses
    rw [hhas]
    rfl
  have hlists : u.withUtilities.lists s = u.lists s := rfl
  have hraw : u.withUtilities.raw = u.raw := rfl
  unfold Judge.isUsed
  rw [hraw, hlists, huses]

end Usage

/-! ## Mentions of every kind -/

namespace Usage

theorem commonMentions_subset_mentions (kind : DocumentKind) (t : Text) :
    commonMentions t ⊆ mentions kind t := by
  intro m hm
  cases kind with
  | generic | jsx | vue | tailwind => exact List.mem_append_right _ hm
  | angular => exact List.mem_append_left _ (List.mem_append_right _ hm)

/-- A class of a document with utilities is mentioned as a utility or as a class. -/
theorem mem_utilityMentions (name : Text) :
    .utility name ∈ utilityMentions name ∨ .className name ∈ utilityMentions name := by
  unfold utilityMentions
  split
  · exact .inl List.mem_cons_self
  · exact .inr (List.mem_singleton_self _)

theorem mem_mentions_of_mem_commonClasses (kind : DocumentKind) {t c : Text}
    (hc : c ∈ commonClasses t) :
    .utility c ∈ mentions kind t ∨ .className c ∈ mentions kind t := by
  have hclass : Mention.className c ∈ (commonClasses t).map .className := List.mem_map_of_mem hc
  cases kind with
  | generic | jsx => exact .inr (List.mem_append_left _ hclass)
  | vue =>
    refine .inr (List.mem_append_left _ ?_)
    exact List.mem_map_of_mem (List.mem_append_left _ hc)
  | angular => exact .inr (List.mem_append_left _ (List.mem_append_left _ hclass))
  | tailwind =>
    have hnames : c ∈ commonClasses t ++ appliedClasses t := List.mem_append_left _ hc
    have hmentions : utilityMentions c ⊆ mentions .tailwind t := fun m hm =>
      List.mem_append_left _ (List.mem_flatMap.2 ⟨c, hnames, hm⟩)
    exact (mem_utilityMentions c).imp (hmentions ·) (hmentions ·)

/-- A usage of any kind has what the usage of no framework has, with its utilities counted among
its classes. -/
theorem ofDocument_generic_subset_withUtilities (kind : DocumentKind) (t : Text) :
    ofDocument .generic t ⊆ (ofDocument kind t).withUtilities := by
  have hgrow := subset_withUtilities (ofDocument kind t)
  have hempty : empty ⊆ ofDocument kind t := (foldl_add_subset_iff.1 (subset_refl _)).1
  refine foldl_add_subset_iff.2 ⟨subset_trans hempty hgrow, ?_⟩
  intro m hm
  rcases List.mem_append.1 hm with hclass | hcommon
  · obtain ⟨c, hc, rfl⟩ := List.mem_map.1 hclass
    rcases mem_mentions_of_mem_commonClasses kind hc with hutility | hclass
    · exact TokenSet.mem_union.2 (.inr (holds_ofMentions hutility))
    · exact holds_of_subset hgrow (holds_ofMentions hclass)
  · exact holds_of_subset hgrow (holds_ofMentions (commonMentions_subset_mentions kind t hcommon))

end Usage

/-! ## Judging by a document -/

/-- What is a part of a usage with its utilities counted among its classes keeps nothing that the
usage itself drops. -/
theorem Judge.keep_classify_of_subset_withUtilities {u v : Usage} (h : u ⊆ v.withUtilities)
    (p : Policy) (critical : Bool) {b : Block}
    (hkeep : (classify { usage := u, policy := p, critical } b).keep = true) :
    (classify { usage := v, policy := p, critical } b).keep = true := by
  have hjudge : Judge.NoStricter { usage := v, policy := p, critical }
      { usage := u, policy := p, critical } := by
    refine noStricter_of_policy (.refl p) ?_ rfl
    intro b s hs
    rw [← Usage.isUsed_withUtilities]
    exact isUsed_of_subset h p p critical hs
  exact keep_classify_of_noStricter hjudge b hkeep

namespace Usage

/-- **A framework takes nothing away.**  Whatever a document is read for where no framework is
known, it is read for in every kind, where a class may come as a utility.  So every policy keeps by
its usage of any kind the blocks that it keeps by its usage of no framework, in both modes. -/
theorem ofDocument_generic_subset (kind : DocumentKind) (content : Text) :
    let g := ofDocument .generic content
    let k := ofDocument kind content
    g.ids ⊆ k.ids ∧ g.tags ⊆ k.tags ∧ g.attributes ⊆ k.attributes ∧ g.raw ⊆ k.raw ∧
      g.classes ⊆ k.classes.union k.utilities ∧
        ∀ (p : Policy) (critical : Bool) (b : Block),
          (Judge.classify { usage := g, policy := p, critical } b).keep = true →
            (Judge.classify { usage := k, policy := p, critical } b).keep = true := by
  intro g k
  have h : g ⊆ k.withUtilities := ofDocument_generic_subset_withUtilities kind content
  refine ⟨h.ids, h.tags, h.attributes, h.raw, h.classes, ?_⟩
  intro p critical b hkeep
  exact Judge.keep_classify_of_subset_withUtilities h p critical hkeep

/-- Two classes of which the utility framework takes one for a utility, and a media block with a
rule for that one. -/
theorem ofDocument_generic_subset_tailwind :
    let page : Text := "class=\x22a B\x22".toList
    let g := ofDocument .generic page
    let k := ofDocument .tailwind page
    let p : Policy := { keepMedia := false }
    let b : Block :=
      { body := "\x7b.a\x7b\x7d\x7d".toList, kind := .media, condition := "x".toList,
        keyword := "media".toList, source := "@media x\x7b.a\x7b\x7d\x7d".toList }
    g = { classes := .ofList [['a'], ['B']] } ∧
      k = { classes := .ofList [['B']], utilities := .ofList [['a']] } ∧
        g.classes ⊆ k.classes.union k.utilities ∧
          (Judge.classify { usage := g, policy := p } b).keep = true ∧
            (Judge.classify { usage := k, policy := p } b).keep = true := by
  intro page g k p b
  have hg : g = { classes := .ofList [['a'], ['B']] } := by decide +kernel
  have hk : k = { classes := .ofList [['B']], utilities := .ofList [['a']] } := by decide +kernel
  have hkeep : (Judge.classify { usage := g, policy := p } b).keep = true := by
    rw [hg]
    decide +kernel
  obtain ⟨-, -, -, -, hsubset, hkept⟩ := ofDocument_generic_subset .tailwind page
  exact ⟨hg, hk, hsubset, hkeep, hkept p false b hkeep⟩

end Usage

end CssTrim
