import CssTrim.Proofs.Block.Segment
import CssTrim.Proofs.Lexeme.Live

/-!
# The braces of a block

Where blocks begin and end is a matter of the live braces of a stylesheet.
There are three groups.

* Fragments have no live opening brace, and a live closing brace can only be
  their last character.
* Rules have no live brace in front of the body.  In the body, every front part
  but all of it leaves a brace open, and a malformed body is left open by all of
  it too.
* `Block.live_braces_of_mem_segment` says both of the blocks of any stylesheet.
-/

namespace CssTrim

open Lexeme (level Nested opened closed)

namespace Piece

/-! ## Fragments -/

/-- What does not end a header is no brace. -/
theorem not_mem_of_noHeaderEnd {depth : Nat} {ls : List Lexeme} (h : NoHeaderEnd depth ls) :
    .plain '{' ∉ ls ∧ .plain '}' ∉ ls := by
  induction ls generalizing depth with
  | nil => exact ⟨List.not_mem_nil, List.not_mem_nil⟩
  | cons l ls ih =>
    obtain ⟨hl, htail⟩ := noHeaderEnd_cons_iff.1 h
    obtain ⟨hopen, hclose⟩ := ih htail
    rw [List.mem_cons, List.mem_cons, not_or, not_or]
    refine ⟨⟨?_, hopen⟩, ⟨?_, hclose⟩⟩
    · rintro rfl
      simp [endsHeader] at hl
    · rintro rfl
      simp [endsHeader] at hl

/-- No brace of a header is live. -/
theorem not_mem_live_of_noHeaderEnd {depth : Nat} {ls : List Lexeme} (h : NoHeaderEnd depth ls) :
    some '{' ∉ ls.flatMap Lexeme.live ∧ some '}' ∉ ls.flatMap Lexeme.live := by
  rw [Lexeme.some_mem_flatMap_live, Lexeme.some_mem_flatMap_live]
  exact not_mem_of_noHeaderEnd h

/-- The live braces of a fragment. -/
theorem live_of_fragment {ls : List Lexeme} (h : Whole (fragment ls) ∨ Unfinished (fragment ls)) :
    some '{' ∉ ls.flatMap Lexeme.live ∧
      ∀ i, (ls.flatMap Lexeme.live)[i]? = some (some '}') →
        i + 1 = (ls.flatMap Lexeme.live).length := by
  -- nothing is left to show of a fragment without a closing brace
  have of_not_mem : some '}' ∉ ls.flatMap Lexeme.live →
      ∀ i, (ls.flatMap Lexeme.live)[i]? = some (some '}') →
        i + 1 = (ls.flatMap Lexeme.live).length :=
    fun hclose i hi => absurd (List.mem_of_getElem? hi) hclose
  rcases h with h | h
  · cases h with
    | comment body =>
      rw [Lexeme.some_mem_flatMap_live] at of_not_mem ⊢
      exact ⟨by simp, of_not_mem (by simp)⟩
    | @statement front stop hopens hfront hstop hne =>
      obtain ⟨hopen, hclose⟩ := not_mem_live_of_noHeaderEnd hfront
      obtain ⟨c, rfl⟩ : ∃ c, stop = .plain c := by
        rcases endsHeader_iff.1 hstop with h | h | ⟨h, _⟩
        all_goals exact ⟨_, h⟩
      have hlast : (front ++ [Lexeme.plain c]).flatMap Lexeme.live =
          front.flatMap Lexeme.live ++ [some c] := by
        rw [List.flatMap_append]
        rfl
      rw [hlast]
      constructor
      · rw [List.mem_append, List.mem_singleton, not_or]
        refine ⟨hopen, ?_⟩
        intro hc
        exact hne (by rw [← Option.some.inj hc])
      · intro i hi
        rw [List.length_append, List.length_singleton]
        by_cases hlt : i < (front.flatMap Lexeme.live).length
        · rw [List.getElem?_append_left hlt] at hi
          exact absurd (List.mem_of_getElem? hi) hclose
        · have hbound := (List.getElem?_eq_some_iff.1 hi).1
          rw [List.length_append, List.length_singleton] at hbound
          omega
  · cases h with
    | statement hopens hfront =>
      obtain ⟨hopen, hclose⟩ := not_mem_live_of_noHeaderEnd hfront
      exact ⟨hopen, of_not_mem hclose⟩

/-! ## Rules -/

/-- The lexemes of the body of a rule. -/
def bodyOf (inner : List Lexeme) (ends : Bool) : List Lexeme :=
  .plain '{' :: inner ++ if ends then [.plain '}'] else []

theorem flatMap_live_bodyOf_true (inner : List Lexeme) :
    (bodyOf inner true).flatMap Lexeme.live =
      (Lexeme.plain '{' :: inner).flatMap Lexeme.live ++ [some '}'] := by
  rw [bodyOf, if_pos rfl, List.flatMap_append]
  rfl

theorem flatMap_live_bodyOf_false (inner : List Lexeme) :
    (bodyOf inner false).flatMap Lexeme.live =
      (Lexeme.plain '{' :: inner).flatMap Lexeme.live :=
  congrArg (List.flatMap Lexeme.live) (List.append_nil _)

/-- A brace in front of what never closes more than it opens stays open. -/
theorem closed_lt_opened_of_prefix {inner : List Lexeme} (hinner : Nested 0 inner)
    {p : List (Option Char)} (hp : p <+: (Lexeme.plain '{' :: inner).flatMap Lexeme.live)
    (hne : p ≠ []) : closed p < opened p := by
  rcases List.prefix_cons_iff.1 hp with rfl | ⟨q, rfl, hq⟩
  · exact absurd rfl hne
  · have hle := hinner.closed_le_opened hq
    have hopened : opened (some '{' :: q) = opened q + 1 := List.count_cons_self
    have hclosed : closed (some '{' :: q) = closed q := List.count_cons_of_ne (by decide)
    omega

/-- The brace that a whole body starts with is closed at its end. -/
theorem opened_eq_closed {inner : List Lexeme} (hlevel : level inner = 0) :
    opened ((bodyOf inner true).flatMap Lexeme.live) =
      closed ((bodyOf inner true).flatMap Lexeme.live) := by
  have hcount := Lexeme.opened_flatMap_live (bodyOf inner true)
  have hbody : level (bodyOf inner true) = 0 := by
    rw [bodyOf, Lexeme.level_append, Lexeme.level_cons, hlevel]
    rfl
  omega

/-- The live braces of a rule. -/
theorem live_of_rule {header inner : List Lexeme} {ends : Bool}
    (h : Whole (rule header inner ends) ∨ Unfinished (rule header inner ends)) :
    let within := (bodyOf inner ends).flatMap Lexeme.live
    NoHeaderEnd 0 header ∧
      (ends = false → ∀ p, p <+: within → p ≠ [] → closed p < opened p) ∧
      (ends = true → within.getLast? = some (some '}') ∧ opened within = closed within ∧
        ∀ p, p <+: within → p ≠ [] → p ≠ within → closed p < opened p) := by
  intro within
  rcases h with h | h
  · cases h with
    | rule hopens hheader hinner hlevel =>
      have hwithin : within = (Lexeme.plain '{' :: inner).flatMap Lexeme.live ++ [some '}'] :=
        flatMap_live_bodyOf_true inner
      refine ⟨hheader, fun hends => absurd hends.symm Bool.false_ne_true, fun _ => ⟨?_, ?_, ?_⟩⟩
      · rw [hwithin, List.getLast?_concat]
      · exact opened_eq_closed hlevel
      · intro p hp hne hproper
        rw [hwithin] at hp hproper
        rcases List.prefix_concat_iff.1 hp with rfl | hp
        · exact absurd rfl hproper
        · exact closed_lt_opened_of_prefix hinner hp hne
  · cases h with
    | rule hopens hheader hinner =>
      have hwithin : within = (Lexeme.plain '{' :: inner).flatMap Lexeme.live :=
        flatMap_live_bodyOf_false inner
      refine ⟨hheader, fun _ => ?_, fun hends => absurd hends Bool.false_ne_true⟩
      intro p hp hne
      rw [hwithin] at hp
      exact closed_lt_opened_of_prefix hinner hp hne

end Piece

namespace Block

/-! ## The blocks of a stylesheet -/

/-- Without the blanks in front of it, the source of a block is the text of its piece. -/
theorem trimStart_source_ofPiece (order : Nat) {lead : List Lexeme} {core : Piece}
    (hlead : lead.all Lexeme.isBlank) (hcore : Piece.Whole core ∨ Piece.Unfinished core)
    (hread : Lexeme.IsReading core.lexemes) :
    Text.trimStart (ofPiece order (Piece.behind lead core)).source =
      Lexeme.textOf core.lexemes := by
  rw [source_ofPiece, Piece.lexemes_behind, Lexeme.textOf_append,
    Text.trimStart_append_of_isBlankText (Lexeme.isBlankText_textOf hlead)]
  obtain ⟨first, rest, hfirst, hblank⟩ := Piece.exists_lexemes_eq_cons hcore
  rw [hfirst] at hread ⊢
  obtain ⟨c, r, htext, hc⟩ := (Lexeme.isReading_cons_iff.1 hread).1.exists_text_eq_cons hblank
  rw [Lexeme.textOf_cons, htext, List.cons_append, Text.trimStart_cons hc]

/-- A block of a stylesheet is that of a piece behind blanks, and the piece is what is left of its
source without these blanks. -/
theorem exists_piece_of_mem_segment {css : Text} {b : Block} (hb : b ∈ segment css) :
    ∃ n lead core, b = ofPiece n (Piece.behind lead core) ∧ lead.all Lexeme.isBlank ∧
      (Piece.Whole core ∨ Piece.Unfinished core) ∧ Lexeme.IsReading core.lexemes ∧
        Text.trimStart b.source = Lexeme.textOf core.lexemes := by
  obtain ⟨p, hp, n, rfl⟩ := mem_ofPieces hb
  obtain ⟨lead, core, rfl, hlead, hcore, hpart⟩ := (Piece.cut_ofLexemes _).mem hp
  have hread := (Lexeme.isReading_lexemes css).of_part hpart
  exact ⟨n, lead, core, rfl, hlead, hcore, hread, trimStart_source_ofPiece n hlead hcore hread⟩

/-- The views of a rule that its braces show in. -/
theorem views_ofPiece_rule (order : Nat) (header inner : List Lexeme) (ends : Bool) :
    let b := ofPiece order (.rule header inner ends)
    b.passthrough = false ∧ b.malformed = !ends ∧
      b.body = Lexeme.textOf (Piece.bodyOf inner ends) := by
  have hbody : '{' :: Lexeme.textOf inner ++ (if ends then ['}'] else []) =
      Lexeme.textOf (Piece.bodyOf inner ends) := by
    cases ends <;> simp [Piece.bodyOf, Lexeme.text]
  rw [ofPiece, ofRule, hbody]
  split
  all_goals exact ⟨rfl, rfl, rfl⟩

/-- **The braces of a block.**  A fragment has no live opening brace, and a live closing one only at
its end.  A rule has no live brace before its body, which starts with one; every front part of the
body leaves a brace open, except for the whole body when the block is well formed. -/
theorem live_braces_of_mem_segment {css : Text} {b : Block} (hb : b ∈ segment css) :
    let t := Text.trimStart b.source
    (b.passthrough = true →
      some '{' ∉ Text.live t ∧
        ∀ i, (Text.live t)[i]? = some (some '}') → i + 1 = t.length) ∧
    (b.passthrough = false →
      ∃ front, t = front ++ b.body ∧
        let before := (Text.live t).take front.length
        let within := (Text.live t).drop front.length
        some '{' ∉ before ∧ some '}' ∉ before ∧ within.head? = some (some '{') ∧
          (b.malformed = true → ∀ p, p <+: within → p ≠ [] → closed p < opened p) ∧
          (b.malformed = false →
            within.getLast? = some (some '}') ∧ opened within = closed within ∧
              ∀ p, p <+: within → p ≠ [] → p ≠ within → closed p < opened p)) := by
  obtain ⟨n, lead, core, rfl, -, hcore, hread, htrim⟩ := exists_piece_of_mem_segment hb
  intro t
  have ht : t = Lexeme.textOf core.lexemes := htrim
  have hlive : Text.live t = core.lexemes.flatMap Lexeme.live := by rw [ht, hread.live_textOf]
  rw [← Text.length_live t, hlive]
  cases core with
  | fragment ls =>
    exact ⟨fun _ => Piece.live_of_fragment hcore, fun h => absurd h.symm Bool.false_ne_true⟩
  | rule header inner ends =>
    obtain ⟨hpass, hmalformed, hbody⟩ := views_ofPiece_rule n (lead ++ header) inner ends
    obtain ⟨hheader, hopen, hclosed⟩ := Piece.live_of_rule hcore
    obtain ⟨hbefore, hbefore'⟩ := Piece.not_mem_live_of_noHeaderEnd hheader
    have hsplit : (Piece.rule header inner ends).lexemes = header ++ Piece.bodyOf inner ends :=
      List.append_assoc _ _ _
    rw [hsplit] at hread ht ⊢
    rw [Piece.behind, hpass, hmalformed, hbody]
    refine ⟨fun h => absurd h Bool.false_ne_true, fun _ => ⟨Lexeme.textOf header, ?_, ?_⟩⟩
    · rw [ht, Lexeme.textOf_append]
    · rw [List.flatMap_append, ← hread.of_append_left.length_flatMap_live, List.take_left,
        List.drop_left, Bool.not_eq_true', Bool.not_eq_false']
      exact ⟨hbefore, hbefore', rfl, hopen, hclosed⟩

/-- The closing brace inside a string does not end the rule. -/
theorem live_braces_of_mem_segment_string :
    let css := ".a\x7bcontent:\x22\x7d\x22\x7d".toList
    let b : Block :=
      { selectors := ".a".toList, body := "\x7bcontent:\x22\x7d\x22\x7d".toList,
        condition := ".a".toList, source := css }
    b ∈ segment css ∧
      ∃ front, Text.trimStart b.source = front ++ b.body ∧
        let within := (Text.live (Text.trimStart b.source)).drop front.length
        within.getLast? = some (some '}') ∧ opened within = closed within := by
  intro css b
  have hb : b ∈ segment css := by decide +kernel
  obtain ⟨front, hfront, -, -, -, -, hwhole⟩ := (live_braces_of_mem_segment hb).2 rfl
  obtain ⟨hlast, hbalance, -⟩ := hwhole rfl
  exact ⟨hb, front, hfront, hlast, hbalance⟩

end Block

end CssTrim
