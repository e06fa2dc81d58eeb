import CssTrim.Proofs.Block.Bundle
import CssTrim.Proofs.Stylesheet.Purge

/-!
# Purging a bundle

Purging two stylesheets one behind the other gives what purging each of them
gives, one below the other, and the counts add up.  The first stylesheet must
end between two blocks, and comments must be kept: where they are taken out, a
new comment may start at the seam.

* `Block.serialize_append` writes a list of blocks in two goes.
* `Judge.rejected_eq_of_agrees` and its neighbours say that what a judge counts
  depends on what the blocks say only.
* `Stylesheet.purge_append` puts them together.
-/

namespace CssTrim

/-! ## What is written -/

/-- Two lists of blocks are written as each of them is, one below the other. -/
theorem Block.serialize_append (bs cs : List Block) :
    serialize (bs ++ cs) =
      Text.joinWith ['\n'] ([serialize bs, serialize cs].filter (!·.isEmpty)) := by
  have hne : ∀ ds : List Block, ∀ t ∈ (ds.map text).filter (!·.isEmpty), t ≠ [] := by
    intro ds t ht
    simpa using (List.mem_filter.1 ht).2
  rw [serialize, List.map_append, List.filter_append,
    Text.joinWith_filter_append _ (hne bs) (hne cs)]
  rfl

/-! ## What a judge counts -/

namespace Judge

variable (j : Judge)

theorem retained_append (bs cs : List Block) :
    (j.filter (bs ++ cs)).retained = (j.filter bs).retained ++ (j.filter cs).retained := by
  simp only [retained_filter, List.filter_append]

theorem removed_append (bs cs : List Block) :
    (j.filter (bs ++ cs)).removed = (j.filter bs).removed ++ (j.filter cs).removed := by
  simp only [removed_filter, List.filter_append]

theorem rejected_append (bs cs : List Block) :
    (j.filter (bs ++ cs)).rejected = (j.filter bs).rejected ++ (j.filter cs).rejected := by
  simp only [rejected_filter, List.flatMap_append]

variable {j} {bs cs : List Block}

/-- The same alternatives are rejected of blocks that agree. -/
theorem rejected_eq_of_agrees (h : List.Forall₂ Block.Agrees bs cs) :
    (j.filter bs).rejected = (j.filter cs).rejected := by
  rw [rejected_filter, rejected_filter]
  induction h with
  | nil => rfl
  | cons hbc _ ih => rw [List.flatMap_cons, List.flatMap_cons, decide_eq_of_agrees j hbc, ih]

/-- As many blocks are dropped of lists that agree. -/
theorem length_removed_eq_of_agrees (h : List.Forall₂ Block.Agrees bs cs) :
    (j.filter bs).removed.length = (j.filter cs).removed.length := by
  have hkept := (forall₂_agrees_retained j h).length_eq
  have hblocks := h.length_eq
  have hbs := j.length_retained_add_length_removed bs
  have hcs := j.length_retained_add_length_removed cs
  omega

end Judge

/-! ## The bundle -/

namespace Stylesheet

/-- **Purging a bundle.**  When comments are kept and the first of two stylesheets ends between two
blocks, the blocks of both together are those of each, and purging them together writes what purging
each of them writes, one below the other.  All that is counted adds up, and the rejected
alternatives follow one another. -/
theorem purge_append (s : CheckedSettings) (hs : s.keepComments = true) (u : Usage) (a b : Text)
    (ha : Text.endsBetween a) :
    let whole := purge s u (a ++ b)
    let front := purge s u a
    let back := purge s u b
    (Block.segment (a ++ b)).map Block.text =
        (Block.segment a).map Block.text ++ (Block.segment b).map Block.text ∧
      whole.css = Text.joinWith ['\n'] ([front.css, back.css].filter (!·.isEmpty)) ∧
        whole.stats.blocksIn = front.stats.blocksIn + back.stats.blocksIn ∧
          whole.stats.retained = front.stats.retained + back.stats.retained ∧
            whole.stats.removed = front.stats.removed + back.stats.removed ∧
              whole.stats.rejected = front.stats.rejected ++ back.stats.rejected := by
  intro whole front back
  let judge : Judge := { usage := u, policy := s.policy }
  have hblocks := Block.forall₂_agrees_segment_append ha b
  have hkept := judge.forall₂_agrees_retained hblocks
  have hwhole : whole = purge s u (a ++ b) := rfl
  have hfront : front = purge s u a := rfl
  have hback : back = purge s u b := rfl
  rw [purge_eq, blocksOf_of_keepComments hs] at hwhole hfront hback
  rw [hwhole, hfront, hback]
  refine ⟨?_, ?_, ?_, ?_, ?_, ?_⟩
  · rw [Block.map_text_of_forall₂_agrees hblocks, List.map_append]
  · dsimp only
    rw [← Block.serialize_append, ← judge.retained_append]
    exact serialize_congr (Block.map_text_of_forall₂_agrees hkept)
  · dsimp only
    rw [hblocks.length_eq, List.length_append]
  · dsimp only
    rw [hkept.length_eq, judge.retained_append, List.length_append, Int.natCast_add]
  · dsimp only
    rw [Judge.length_removed_eq_of_agrees hblocks, judge.removed_append, List.length_append]
  · dsimp only
    rw [Judge.rejected_eq_of_agrees hblocks, judge.rejected_append]

/-- A comment at the seam, and a rule behind it that the input leaves open. -/
theorem purge_append_comment :
    let s : CheckedSettings := {}
    let u : Usage := { classes := .ofList ["a".toList] }
    let a := "@import 'x'; .a\x7b\x7d .b\x7b\x7d /**/ ".toList
    let b := "\n.c\x7b\x7d .d, .a\x7bx:'y".toList
    let whole := purge s u (a ++ b)
    let front := purge s u a
    let back := purge s u b
    s.keepComments = true ∧ Text.endsBetween a ∧
      whole.css = "@import 'x';\n.a\x7b\x7d\n/**/\n.d, .a\x7bx:'y".toList ∧
      whole.stats.rejected = [".b".toList, ".c".toList] ∧
        (Block.segment (a ++ b)).map Block.text =
            (Block.segment a).map Block.text ++ (Block.segment b).map Block.text ∧
          whole.css = Text.joinWith ['\n'] ([front.css, back.css].filter (!·.isEmpty)) ∧
            whole.stats.blocksIn = front.stats.blocksIn + back.stats.blocksIn ∧
              whole.stats.retained = front.stats.retained + back.stats.retained ∧
                whole.stats.removed = front.stats.removed + back.stats.removed ∧
                  whole.stats.rejected = front.stats.rejected ++ back.stats.rejected := by
  intro s u a b whole front back
  have hs : s.keepComments = true := rfl
  have ha : Text.endsBetween a = true := by decide +kernel
  have hcss : whole.css = "@import 'x';\n.a\x7b\x7d\n/**/\n.d, .a\x7bx:'y".toList := by
    decide +kernel
  have hrejected : whole.stats.rejected = [".b".toList, ".c".toList] := by decide +kernel
  exact ⟨hs, ha, hcss, hrejected, purge_append s hs u a b ha⟩

/-- Behind an open comment, the second stylesheet is part of the comment. -/
example :
    let s : CheckedSettings := {}
    Text.endsBetween "/*".toList = false ∧
      (purge s {} ("/*".toList ++ "*/".toList)).css = "/**/".toList ∧
        (purge s {} "/*".toList).css = "/*".toList ∧
          (purge s {} "*/".toList).css = "*/".toList := by
  decide +kernel

end Stylesheet

end CssTrim
