import CssTrim.Proofs.Media.Rewrite
import CssTrim.Proofs.Stylesheet.Optimize

/-!
# Combining a second time

Combining what combining has written finds nothing to do, if the written text is
read as the blocks that were merged.  `combineMedia_twice_iff` says when this is
so: for each merged block, the header with a brace behind it has no comments and
this brace is live, and the brace at the end of the body is live too.

All three can go wrong.  The line break that has ended a string in the header is
trimmed off, and the string goes on to swallow the brace.  A comment is taken out of
a header between a slash and an asterisk, which then start a new one.  And where the
last member ends with a string, the line break that has ended it is trimmed off, and
so is a blank with a backslash in front: the backslash takes the next line break
instead, and the string swallows the brace behind it.
-/

namespace CssTrim.Stylesheet

/-- **Combining a second time.**  When comments are kept, the text that combining writes is read as
the merged blocks, and combining it changes nothing and merges nothing, if and only if all blocks
that merging writes anew are rewritable. -/
theorem combineMedia_twice_iff (s : Settings) (hs : s.keepComments = true) (css : Text) :
    let blocks := Block.segment css
    let once := combineMedia s css
    let twice := combineMedia s once.css
    (List.Forall₂ Block.Agrees (Block.segment once.css) (Media.combine blocks) ∧
        twice.css = once.css ∧ twice.stats.merged = 0 ∧
          (twice.stats.blocksIn : Int) = once.stats.retained) ↔
      Media.Readable blocks := by
  intro blocks once twice
  have honce : once.css = Block.serialize (Media.combine blocks) ∧
      once.stats.retained = (Media.combine blocks).length := by
    have heq := combineMedia_eq s css
    rw [blocksOf_of_keepComments hs] at heq
    exact ⟨congrArg Result.css heq, congrArg (·.stats.retained) heq⟩
  have hread := Media.forall₂_agrees_segment_combine_iff css
  rw [← honce.1] at hread
  constructor
  · rintro ⟨hagrees, -⟩
    exact hread.1 hagrees
  · intro hreadable
    have hagrees := hread.2 hreadable
    have hnodup := Media.nodup_filterMap_combine blocks
    obtain ⟨hcss, hmerged, hblocks⟩ := combineMedia_of_agrees hs hagrees
    -- no query occurs twice in the merged list
    rw [Media.combine_eq_self hnodup] at hcss
    rw [Media.saved_eq_zero hnodup] at hmerged
    exact ⟨hagrees, hcss.trans honce.1.symm, hmerged,
      (congrArg Int.ofNat hblocks).trans honce.2.symm⟩

/-- A comment and an escaped brace in the header, and a string with a brace in it. -/
theorem combineMedia_twice_iff_comment :
    let css := "@media/* a */ b\\\x7b\x7b.x\x7b\x7d\x7d".toList ++
      "@media b\\\x7b\x7b.y:after\x7bcontent:\x22\x7d\x22\x7d\x7d".toList
    let s : Settings := {}
    let once := combineMedia s css
    let twice := combineMedia s once.css
    s.keepComments = true ∧ once.stats.merged = 1 ∧ twice.css = once.css ∧
      twice.stats.merged = 0 ∧ (twice.stats.blocksIn : Int) = once.stats.retained := by
  intro css s once twice
  have hs : s.keepComments = true := rfl
  have hreadable : Media.Readable (Block.segment css) := by decide +kernel
  have honce : once.stats.merged = 1 := by decide +kernel
  obtain ⟨-, hcss, hmerged, hblocks⟩ := (combineMedia_twice_iff s hs css).2 hreadable
  exact ⟨hs, honce, hcss, hmerged, hblocks⟩

/-- A string in the header that only a line break ends.  The second reading finds three blocks. -/
theorem combineMedia_twice_string :
    let css := "@media \x22a\n\x7b.x\x7b\x7d\x7d@media \x22a\n\x7b.y\x7b\x7d\x7d".toList
    let once := combineMedia {} css
    let twice := combineMedia {} once.css
    once.css = "@media \x22a \x7b\n.x\x7b\x7d\n\n.y\x7b\x7d\n\x7d".toList ∧
      twice.css ≠ once.css ∧ (twice.stats.blocksIn : Int) ≠ once.stats.retained := by
  decide +kernel

end CssTrim.Stylesheet
