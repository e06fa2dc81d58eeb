import CssTrim.Proofs.Classify.Agree
import CssTrim.Stylesheet

/-!
# Purging twice

Purging a stylesheet that has been purged changes nothing.  What the first run
writes is read as blocks that agree with those it kept, and a judge keeps them
for the same reasons.

A blank stylesheet has no blocks, so `purge_eq` describes a run without the
special case that the definition makes of it.
-/

namespace CssTrim.Stylesheet

/-! ## One run -/

theorem blocksOf_of_isBlankText (s : Settings) {css : Text} (h : Text.isBlankText css) :
    s.blocksOf css = [] := Block.segmentWith_of_isBlankText s.keepComments h

/-- What purging does, blank stylesheets included. -/
theorem purge_eq (s : CheckedSettings) (u : Usage) (css : Text) :
    let filtered := Judge.filter { usage := u, policy := s.policy } (s.blocksOf css)
    purge s u css =
      { css := Block.serialize filtered.retained
        stats := {
          blocksIn := (s.blocksOf css).length
          retained := filtered.retained.length
          removed := filtered.removed.length
          rejected := filtered.rejected
          warnings := s.policy.warnings } } := by
  intro filtered
  unfold purge
  split
  · rename_i hblank
    have hfiltered : filtered = Judge.filter { usage := u, policy := s.policy } [] := by
      rw [← blocksOf_of_isBlankText s.toSettings hblank]
    rw [hfiltered, blocksOf_of_isBlankText s.toSettings hblank]
    rfl
  · rfl

theorem blocksOf_of_keepComments {s : Settings} (hs : s.keepComments = true) (css : Text) :
    s.blocksOf css = Block.segment css := by
  rw [Settings.blocksOf, Block.segmentWith, hs, if_pos rfl]

theorem serialize_congr {bs cs : List Block} (h : bs.map Block.text = cs.map Block.text) :
    Block.serialize bs = Block.serialize cs := by
  unfold Block.serialize
  rw [h]

/-! ## Two runs -/

/-- Every block that was kept is kept again after it has been written and read. -/
theorem retained_segment_serialize (j : Judge) (css : Text) :
    let kept := (j.filter (Block.segment css)).retained
    (j.filter (Block.segment (Block.serialize kept))).retained =
      Block.segment (Block.serialize kept) := by
  intro kept
  have hsub : kept.Sublist (Block.segment css) := j.retained_sublist _
  have hread := @Block.forall₂_agrees_segment_serialize true css kept hsub
  have hagain := j.forall₂_agrees_retained hread
  rw [show (j.filter kept).retained = kept from j.retained_retained _] at hagain
  -- as many blocks are kept of those that were read as there are, so all of them are
  apply (j.retained_sublist _).eq_of_length
  rw [hagain.length_eq, hread.length_eq]

/-- What purging a purged stylesheet does: it keeps every block that it reads. -/
theorem purge_purge {s : CheckedSettings} (hs : s.keepComments = true) (u : Usage) (css : Text) :
    let judge : Judge := { usage := u, policy := s.policy }
    let kept := (judge.filter (Block.segment css)).retained
    purge s u (purge s u css).css =
      { css := (purge s u css).css
        stats := {
          blocksIn := kept.length
          retained := kept.length
          removed := 0
          rejected := (judge.filter (Block.segment (Block.serialize kept))).rejected
          warnings := s.policy.warnings } } := by
  intro judge kept
  have hread : List.Forall₂ Block.Agrees (Block.segment (Block.serialize kept)) kept :=
    @Block.forall₂_agrees_segment_serialize true css kept (judge.retained_sublist _)
  have hagain : (judge.filter (Block.segment (Block.serialize kept))).retained =
      Block.segment (Block.serialize kept) := retained_segment_serialize judge css
  have hremoved : (judge.filter (Block.segment (Block.serialize kept))).removed.length = 0 := by
    have hcount := judge.length_retained_add_length_removed (Block.segment (Block.serialize kept))
    rw [hagain] at hcount
    omega
  have hcss : (purge s u css).css = Block.serialize kept := by
    rw [purge_eq, blocksOf_of_keepComments hs]
  rw [hcss, purge_eq, blocksOf_of_keepComments hs, hagain, hremoved, hread.length_eq,
    serialize_congr (Block.map_text_of_forall₂_agrees hread)]

/-- **Purging is idempotent.**  When comments are kept, purging a purged stylesheet by the same
usage gives the same text, removes nothing, and counts the blocks that the first run kept. -/
theorem purge_idempotent (s : CheckedSettings) (hs : s.keepComments = true) (u : Usage)
    (css : Text) :
    let once := purge s u css
    let twice := purge s u once.css
    twice.css = once.css ∧ twice.stats.removed = 0 ∧
      twice.stats.retained = twice.stats.blocksIn ∧
        (twice.stats.blocksIn : Int) = once.stats.retained := by
  intro once twice
  have htwice : twice = _ := purge_purge hs u css
  have hretained : once.stats.retained =
      (Judge.filter { usage := u, policy := s.policy } (Block.segment css)).retained.length := by
    show (purge s u css).stats.retained = _
    rw [purge_eq, blocksOf_of_keepComments hs]
  rw [htwice, hretained]
  exact ⟨rfl, rfl, rfl, rfl⟩

/-- A comment, a rule that is dropped, and a media block that the input leaves open behind a
backslash, whose last blank is lost. -/
theorem purge_idempotent_unclosed :
    let css := "/* c */ .a\x7b\x7d .b\x7b\x7d\n@media x\x7b.b\x7b \\ ".toList
    let s : CheckedSettings := {}
    let u : Usage := { classes := .ofList ["a".toList] }
    let once := purge s u css
    let twice := purge s u once.css
    s.keepComments = true ∧
      once.css = "/* c */\n.a\x7b\x7d\n@media x\x7b.b\x7b \\".toList ∧ once.stats.retained = 3 ∧
        twice.css = once.css ∧ twice.stats.removed = 0 ∧
          twice.stats.retained = twice.stats.blocksIn ∧
            (twice.stats.blocksIn : Int) = once.stats.retained := by
  intro css s u once twice
  have hs : s.keepComments = true := rfl
  have honce : once.css = "/* c */\n.a\x7b\x7d\n@media x\x7b.b\x7b \\".toList := by decide +kernel
  have hretained : once.stats.retained = 3 := by decide +kernel
  exact ⟨hs, honce, hretained, purge_idempotent s hs u css⟩

end CssTrim.Stylesheet
