import CssTrim.Proofs.Block.Settled
import CssTrim.Proofs.Classify

/-!
# Rules in rules

`Block.Reachable` are the blocks of a stylesheet, those nested in them, and so on
to any depth.  All of them are blocks of some text, so that what is nested in a
well-formed rule is well formed wherever the rule stands.  There are two groups.

* Fragments between two braces.  What stands there closes every brace that it
  opens, and so does each of its pieces, so that no fragment has a brace.
* The blocks at any depth.  `Block.segmentInner_of_reachable` puts together what
  the inner text of a well-formed rule is made of, and what this means for a
  judge that looks for nested rules.
-/

namespace CssTrim

open Lexeme (level Nested)

/-! ## Fragments between two braces -/

/-- A fragment that closes what it opens has no closing brace. -/
theorem Piece.not_mem_of_level {ls : List Lexeme}
    (h : Whole (fragment ls) ∨ Unfinished (fragment ls)) (hlevel : level ls = 0) :
    .plain '\x7d' ∉ ls := by
  rcases h with h | h
  · cases h with
    | comment => simp
    | @statement front stop _ hfront _ hne =>
      rw [Lexeme.level_append, level_of_noHeaderEnd hfront, Lexeme.level_cons, Lexeme.level_nil]
        at hlevel
      rw [List.mem_append, List.mem_singleton, not_or]
      refine ⟨(not_mem_of_noHeaderEnd hfront).2, ?_⟩
      rintro rfl
      exact absurd hlevel (by decide)
  · cases h with
    | statement _ hfront => exact (not_mem_of_noHeaderEnd hfront).2

namespace Block

/-- A fragment nested in a well-formed rule has no live closing brace. -/
theorem not_mem_live_of_mem_segmentInner {css : Text} {b i : Block} (hb : b ∈ segment css)
    (hrule : b.passthrough = false) (hwell : b.malformed = false) (hi : i ∈ b.segmentInner)
    (hpass : i.passthrough = true) : some '\x7d' ∉ Text.live (Text.trimStart i.source) := by
  obtain ⟨n, lead, core, rfl, hlead, hcore, hread, hlevel⟩ :=
    exists_piece_of_mem_segmentInner hb hrule hwell hi
  rw [trimStart_source_ofPiece n hlead hcore hread, hread.live_textOf,
    Lexeme.some_mem_flatMap_live]
  cases core with
  | fragment ls => exact Piece.not_mem_of_level hcore hlevel
  | rule header inner ends =>
    rw [Piece.behind, (views_ofPiece_rule n (lead ++ header) inner ends).1] at hpass
    exact Bool.noConfusion hpass

/-! ## The blocks at any depth -/

/-- The blocks of a stylesheet and what is nested in them, to any depth. -/
inductive Reachable (css : Text) : Block → Prop where
  | outer {b : Block} (hb : b ∈ segment css) : Reachable css b
  | nested {b i : Block} (hb : Reachable css b) (hi : i ∈ b.segmentInner) : Reachable css i

/-- A block at any depth is a block of some text. -/
theorem Reachable.exists_mem_segment {css : Text} {b : Block} (h : Reachable css b) :
    ∃ t, b ∈ segment t := by
  cases h with
  | outer hb => exact ⟨css, hb⟩
  | nested _ hi => exact ⟨_, mem_segment_of_mem_segmentInner hi⟩

/-- **Well-formedness is inherited.**  The body of a well-formed rule, at any depth of a stylesheet,
is its inner text in braces.  What is nested in it makes up the inner text but for blanks at the end,
is well formed, and has a shorter body; the fragments among it have no live closing brace.  So a judge
keeps the rule by itself, or for a nested rule that it keeps, or for having none. -/
theorem segmentInner_of_reachable {css : Text} {b : Block} (hb : Reachable css b)
    (hrule : b.passthrough = false) (hwell : b.malformed = false) :
    b.body = '\x7b' :: (b.inner ++ ['\x7d']) ∧
      (∀ i ∈ b.segmentInner, i.malformed = false) ∧
        (∀ i ∈ b.segmentInner, i.passthrough = true →
          some '\x7d' ∉ Text.live (Text.trimStart i.source)) ∧
          (∃ tail, b.segmentInner.flatMap source ++ tail = b.inner ∧ Text.isBlankText tail) ∧
            (∀ i ∈ b.segmentInner, i.body.length < b.body.length) ∧
              ∀ j : Judge, (j.classify b).keep = true ↔
                (j.direct b).keep = true ∨ j.mayHoldRules b = true ∧
                  (b.innerRules = [] ∧ j.critical = false ∨
                    ∃ i ∈ b.innerRules, (j.classify i).keep = true) := by
  obtain ⟨t, ht⟩ := hb.exists_mem_segment
  obtain ⟨ls, hbody, -⟩ := exists_inner_of_mem_segment ht hrule hwell
  have hinner : b.inner = Lexeme.textOf ls := inner_of_body hbody hwell
  have hclosed : ∀ i ∈ b.segmentInner, i.malformed = false :=
    fun i hi => malformed_of_mem_segmentInner ht hrule hwell hi
  refine ⟨?_, hclosed, ?_, ?_, fun i hi => length_body_segmentInner_lt hi, fun j => ?_⟩
  · rw [hinner, hbody]
  · exact fun i hi hpass => not_mem_live_of_mem_segmentInner ht hrule hwell hi hpass
  · rw [segmentInner_of_body hbody hrule hwell, hinner]
    exact exists_flatMap_source_segment _
  · rw [Judge.keep_classify_iff, Judge.keepsNested_iff]
    have hkept : (∃ i ∈ b.innerRules, i.malformed = true ∨ (j.classify i).keep = true) ↔
        ∃ i ∈ b.innerRules, (j.classify i).keep = true := by
      refine exists_congr fun i => and_congr_right fun hi => ?_
      rw [hclosed i (mem_innerRules.1 hi).1, or_iff_right Bool.false_ne_true]
    rw [hkept]

/-- A closed rule in a media block that the input leaves open.  Nested in it are a comment and a rule
with a closing brace inside, and a fragment. -/
theorem segmentInner_of_reachable_layer :
    let css := "@media x\x7b .a\x7b\x7d @layer y\x7b /*\x7d*/ .b\x7bc:'\x7d'\x7d d\x7d ".toList
    let b : Block :=
      { body := "\x7b /*\x7d*/ .b\x7bc:'\x7d'\x7d d\x7d".toList, kind := .other,
        condition := "y".toList, order := 1, keyword := "layer".toList,
        source := " @layer y\x7b /*\x7d*/ .b\x7bc:'\x7d'\x7d d\x7d".toList }
    let i : Block :=
      { body := "d".toList, order := 2, passthrough := true, source := " d".toList }
    (∀ outer ∈ segment css, outer.malformed = true) ∧
      Reachable css b ∧ b.passthrough = false ∧ b.malformed = false ∧
        b.body = '\x7b' :: (b.inner ++ ['\x7d']) ∧ i ∈ b.segmentInner ∧ i.malformed = false ∧
          some '\x7d' ∉ Text.live (Text.trimStart i.source) ∧ i.body.length < b.body.length := by
  intro css b i
  have houter : ∀ outer ∈ segment css, outer.malformed = true := by decide +kernel
  have hnested : ∃ outer ∈ segment css, b ∈ outer.segmentInner := by decide +kernel
  obtain ⟨outer, hmem, hb⟩ := hnested
  have hreach : Reachable css b := .nested (.outer hmem) hb
  have hi : i ∈ b.segmentInner := by decide +kernel
  obtain ⟨hbody, hclosed, hlive, -, hshorter, -⟩ := segmentInner_of_reachable hreach rfl rfl
  exact ⟨houter, hreach, rfl, rfl, hbody, hi, hclosed i hi, hlive i hi rfl, hshorter i hi⟩

end Block

end CssTrim
