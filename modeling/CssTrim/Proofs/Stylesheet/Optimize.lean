import CssTrim.Proofs.Media.Combine
import CssTrim.Proofs.Stylesheet.Purge

/-!
# Purging and combining in one run

`optimize` writes the purged stylesheet and reads it again before it combines
the media blocks.  Nothing is lost on the way: the result is what combining the
blocks that were kept would give, and the counts add up.

`combineMedia_eq` says what combining does without the special case of a blank
stylesheet, as `purge_eq` does for purging.
-/

namespace CssTrim.Stylesheet

/-! ## Combining -/

/-- What combining does, blank stylesheets included. -/
theorem combineMedia_eq (s : Settings) (css : Text) :
    combineMedia s css =
      { css := Block.serialize (Media.combine (s.blocksOf css))
        stats := {
          blocksIn := (s.blocksOf css).length
          retained := (Media.combine (s.blocksOf css)).length
          merged := Media.saved (s.blocksOf css) } } := by
  unfold combineMedia
  split
  · rename_i hblank
    rw [blocksOf_of_isBlankText s hblank, Media.combine, Media.saved, Media.groups]
    rfl
  · rfl

/-! ## Both in one run -/

/-- Combining a stylesheet is combining any blocks that say the same as its own. -/
theorem combineMedia_of_agrees {s : Settings} (hs : s.keepComments = true) {css : Text}
    {bs : List Block} (h : List.Forall₂ Block.Agrees (Block.segment css) bs) :
    (combineMedia s css).css = Block.serialize (Media.combine bs) ∧
      (combineMedia s css).stats.merged = Media.saved bs ∧
        (combineMedia s css).stats.blocksIn = bs.length := by
  have htexts := Media.map_text_combine h
  rw [combineMedia_eq, blocksOf_of_keepComments hs]
  refine ⟨serialize_congr htexts, ?_, h.length_eq⟩
  have hcombined := congrArg List.length htexts
  rw [List.length_map, List.length_map] at hcombined
  have hlength := h.length_eq
  have hread := Media.saved_add_length_combine (Block.segment css)
  have hwritten := Media.saved_add_length_combine bs
  dsimp only
  omega

/-- What the two runs do together when comments are kept. -/
theorem optimize_eq {s : CheckedSettings} (hs : s.keepComments = true) (documents : List Document)
    (css : Text) :
    let judge : Judge := { usage := .ofDocuments documents, policy := s.policy }
    let filtered := judge.filter (Block.segment css)
    optimize s documents css =
      { css := Block.serialize (Media.combine filtered.retained)
        stats := {
          blocksIn := (Block.segment css).length
          retained := (Media.combine filtered.retained).length
          removed := filtered.removed.length
          merged := Media.saved filtered.retained
          rejected := filtered.rejected
          warnings := s.policy.warnings } } := by
  intro judge filtered
  have hsub : filtered.retained.Sublist (Block.segment css) := judge.retained_sublist _
  have hpurge := purge_eq s (.ofDocuments documents) css
  rw [blocksOf_of_keepComments hs] at hpurge
  rw [optimize, hpurge]
  dsimp only
  split
  · -- nothing was kept, so there is nothing to combine
    rename_i hempty
    have hblank : Text.isBlankText (Block.serialize filtered.retained) := by
      rw [List.isEmpty_iff.1 hempty]
      rfl
    have hnil : filtered.retained = [] :=
      @Block.eq_nil_of_isBlankText_serialize true css _ hsub hblank
    rw [hnil, Media.combine, Media.saved, Media.groups]
    rfl
  · have hagrees := @Block.forall₂_agrees_segment_serialize true css _ hsub
    obtain ⟨hcss, hmerged, -⟩ := combineMedia_of_agrees hs hagrees
    have hsaved := Media.saved_add_length_combine filtered.retained
    have hretained : (filtered.retained.length : Int) - Media.saved filtered.retained =
        (Media.combine filtered.retained).length := by
      omega
    rw [hcss, hmerged, hretained]

/-- **The way through text is lossless.**  When comments are kept, `optimize` gives what combining
the blocks that were kept gives, and every block that went in is retained, removed or merged. -/
theorem optimize_lossless (s : CheckedSettings) (hs : s.keepComments = true)
    (documents : List Document) (css : Text) :
    let judge : Judge := { usage := .ofDocuments documents, policy := s.policy }
    let filtered := judge.filter (Block.segment css)
    let combined := Media.combine filtered.retained
    let result := optimize s documents css
    result.css = Block.serialize combined ∧
      result.stats.merged = Media.saved filtered.retained ∧
      result.stats.retained = combined.length ∧
      result.stats.removed = filtered.removed.length ∧
      (result.stats.blocksIn : Int) =
        result.stats.retained + result.stats.removed + result.stats.merged := by
  intro judge filtered combined result
  have hcount : filtered.retained.length + filtered.removed.length = (Block.segment css).length :=
    judge.length_retained_add_length_removed (Block.segment css)
  have hsaved : Media.saved filtered.retained + combined.length = filtered.retained.length :=
    Media.saved_add_length_combine filtered.retained
  have hresult := optimize_eq hs documents css
  have hstats : result.stats =
      { blocksIn := (Block.segment css).length
        retained := combined.length
        removed := filtered.removed.length
        merged := Media.saved filtered.retained
        rejected := filtered.rejected
        warnings := s.policy.warnings } := congrArg Result.stats hresult
  refine ⟨congrArg Result.css hresult, ?_, ?_, ?_, ?_⟩
  · rw [hstats]
  · rw [hstats]
  · rw [hstats]
  · rw [hstats]
    dsimp only
    omega

/-- Two media blocks with one query, and a rule between them that no document refers to. -/
theorem optimize_lossless_media :
    let css := "@media print\x7b.a\x7b\x7d\x7d .b\x7b\x7d @media print\x7b.a\x7b\x7d\x7d".toList
    let s : CheckedSettings := {}
    let judge : Judge := { usage := .ofDocuments [], policy := s.policy }
    let filtered := judge.filter (Block.segment css)
    let result := optimize s [] css
    s.keepComments = true ∧
      result.css = Block.serialize (Media.combine filtered.retained) ∧
        result.stats.merged = 1 ∧ result.stats.retained = 1 ∧ result.stats.removed = 1 ∧
          (result.stats.blocksIn : Int) =
            result.stats.retained + result.stats.removed + result.stats.merged := by
  intro css s judge filtered result
  have hs : s.keepComments = true := rfl
  obtain ⟨hcss, hmerged, hretained, hremoved, hcount⟩ := optimize_lossless s hs [] css
  have hsaved : Media.saved filtered.retained = 1 := by decide +kernel
  have hcombined : (Media.combine filtered.retained).length = 1 := by decide +kernel
  have hdropped : filtered.removed.length = 1 := by decide +kernel
  refine ⟨hs, hcss, hmerged.trans hsaved, ?_, hremoved.trans hdropped, hcount⟩
  exact hretained.trans (congrArg Int.ofNat hcombined)

end CssTrim.Stylesheet
