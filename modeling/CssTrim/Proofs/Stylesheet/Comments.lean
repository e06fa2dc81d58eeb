import CssTrim.Proofs.Classify.Comments
import CssTrim.Proofs.Filter
import CssTrim.Proofs.Settings.Checked
import CssTrim.Proofs.Stylesheet.Purge

/-!
# Purging with and without comments

A run can keep the comments of a stylesheet or take them out before anything
else.  Does it keep the same rules?  It does where taking out the comments makes no
new ones, and where no comment makes a difference to the search for custom
properties in the body of a rule: `keptHeaders_eq_of_comments`.

`keptHeaders_of_comment` shows that a comment can decide about its rule where the
search finds something in it.
-/

namespace CssTrim.Stylesheet

/-! ## What is kept -/

/-- The blocks that purging keeps. -/
def retained (s : CheckedSettings) (u : Usage) (css : Text) : List Block :=
  (Judge.filter { usage := u, policy := s.policy } (s.blocksOf css)).retained

/-- Purging writes the blocks that it keeps. -/
theorem css_purge_eq_serialize (s : CheckedSettings) (u : Usage) (css : Text) :
    (purge s u css).css = Block.serialize (retained s u css) := by
  rw [purge_eq, retained]

/-- The headers of the rules that purging keeps. -/
def keptHeaders (s : CheckedSettings) (u : Usage) (css : Text) : List Text :=
  ((retained s u css).filter (!·.passthrough)).map Block.header

/-- The rules that are kept are found among all rules. -/
theorem keptHeaders_eq (s : CheckedSettings) (u : Usage) (css : Text) :
    keptHeaders s u css =
      (((s.blocksOf css).filter (!·.passthrough)).filter fun b =>
        (Judge.decide { usage := u, policy := s.policy } b).keep).map Block.header := by
  rw [keptHeaders, retained, Judge.retained_filter, List.filter_comm]

/-! ## Two runs -/

/-- **Comments do not decide which rules are kept**, as long as there are custom properties in the
body of a rule if and only if there are some without the comments in it.  What is left of the
stylesheet must not have new comments, where one has stood between a slash and an asterisk. -/
theorem keptHeaders_eq_of_comments (s : CheckedSettings) (u : Usage) (css : Text)
    (hclean : Text.stripComments (Text.stripComments css) = Text.stripComments css)
    (hvariables : s.keepVariables = true → ∀ b ∈ Block.segment css, b.passthrough = false →
      Text.occursIn ['-', '-'] (Text.stripComments b.body) = Text.occursIn ['-', '-'] b.body) :
    keptHeaders { s with keepComments := true } u css =
      keptHeaders { s with keepComments := false } u css := by
  let j : Judge := { usage := u, policy := s.policy }
  have hrules := Block.forall₂_bares_rules css hclean
  have hpairs := (List.forall₂_and_left _ _).2 ⟨fun b hb => hb, hrules⟩
  have hkept : List.Forall₂ Block.Bares
      (((Block.segmentWith true css).filter (!·.passthrough)).filter fun b => (j.decide b).keep)
      (((Block.segmentWith false css).filter (!·.passthrough)).filter fun c =>
        (j.decide c).keep) := by
    refine List.Forall₂.imp (fun _ _ h => h.2) (List.rel_filter ?_ hpairs)
    rintro b c ⟨hb, hbc⟩
    obtain ⟨hmem, hrule⟩ := List.mem_filter.1 hb
    rw [Bool.not_eq_true'] at hrule
    have hfinds : j.FindsAlike b c := by
      intro hpolicy
      rw [hbc.body, hrule, if_neg Bool.false_ne_true]
      exact hvariables (s.keepVariables_policy.symm.trans hpolicy) b hmem hrule
    simp only [Judge.decide_eq_of_bares hmem hclean hrule hbc hfinds]
  rw [keptHeaders_eq, keptHeaders_eq]
  exact Block.map_header_of_forall₂_bares hkept

/-- A comment in a selector, one among declarations, and one around a rule in a media block that is
kept for its other rule. -/
theorem keptHeaders_eq_of_comments_media :
    let css := (".a/* - */ b\x7bx:/*y*/z\x7d @media print\x7b/* .c\x7b\x7d */.a\x7b\x7d\x7d " ++
      ".c\x7b--x:1\x7d .d\x7b\x7d").toList
    let s : CheckedSettings := { keepMedia := false, policy := { keepMedia := false } }
    let u : Usage := { classes := .ofList ["a".toList] }
    Text.stripComments (Text.stripComments css) = Text.stripComments css ∧
      (∀ b ∈ Block.segment css, b.passthrough = false →
        Text.occursIn ['-', '-'] (Text.stripComments b.body) = Text.occursIn ['-', '-'] b.body) ∧
        keptHeaders { s with keepComments := true } u css =
          [".a b".toList, "@media print".toList, ".c".toList] ∧
          keptHeaders { s with keepComments := true } u css =
            keptHeaders { s with keepComments := false } u css := by
  intro css s u
  have hclean : Text.stripComments (Text.stripComments css) = Text.stripComments css := by
    decide +kernel
  have hvariables : ∀ b ∈ Block.segment css, b.passthrough = false →
      Text.occursIn ['-', '-'] (Text.stripComments b.body) = Text.occursIn ['-', '-'] b.body := by
    decide +kernel
  exact ⟨hclean, hvariables, by decide +kernel,
    keptHeaders_eq_of_comments s u css hclean fun _ => hvariables⟩

/-- Two hyphens in a comment keep the rule around it. -/
theorem keptHeaders_of_comment :
    let css := ".a\x7b/*--*/\x7d".toList
    keptHeaders { keepComments := true } {} css = [".a".toList] ∧
      keptHeaders { keepComments := false } {} css = [] := by
  decide +kernel

/-- Where a comment stands between a slash and an asterisk, a rule becomes a comment. -/
example :
    keptHeaders { keepComments := true } {} "//**/* \x7b\x7d */".toList = ["/*".toList] ∧
      keptHeaders { keepComments := false } {} "//**/* \x7b\x7d */".toList = [] := by
  decide +kernel

end CssTrim.Stylesheet
