import CssTrim.Proofs.Block.Segment
import Mathlib.Data.List.Forall2

/-!
# Writing blocks and reading them again

The blocks of a stylesheet, written one below the other, are read as the same
blocks.  The same holds of any selection of them.  There are four groups.

* `Block.Agrees` is what two blocks have in common that say the same, wherever
  they stand: everything but the place, the blanks around the text, and the
  blanks at the end of a body that nothing closes.  They have the same header,
  and if they are well formed the same stands between their braces.
  `Piece.Agrees` says it of the pieces that blocks are made from.
* The last piece.  Its text is trimmed at the end, and so its last lexeme may
  be clipped.  `Piece.exists_ofLexemes_text` says that it is still read as one
  piece, and that this piece says the same.
* The other pieces.  A whole piece that something follows ends with a character
  that is no blank, so that trimming only takes off the blanks in front of it,
  and it is read the same in front of a line break.
* The assembly.  Pieces that are `Stacked` can be written one below the other, and
  `Piece.Cut.stacked` is the induction over the cut that finds such pieces.  Pieces
  that stand alone can take the places of others.
  `Block.forall₂_agrees_segment_serialize` is what it says of blocks.
-/

namespace CssTrim

namespace Block

/-! ## Blocks that say the same -/

/-- What two blocks with the same text have in common, wherever they stand. -/
structure Agrees (b c : Block) : Prop where
  selectors : b.selectors = c.selectors
  keyword : b.keyword = c.keyword
  kind : b.kind = c.kind
  condition : b.condition = c.condition
  passthrough : b.passthrough = c.passthrough
  malformed : b.malformed = c.malformed
  text : b.text = c.text
  /-- Nothing closes the body of a malformed block, so blanks at its end may be lost. -/
  body : c.malformed = false → b.body = c.body

theorem Agrees.trans {b c d : Block} (h : b.Agrees c) (h' : c.Agrees d) : b.Agrees d where
  selectors := h.selectors.trans h'.selectors
  keyword := h.keyword.trans h'.keyword
  kind := h.kind.trans h'.kind
  condition := h.condition.trans h'.condition
  passthrough := h.passthrough.trans h'.passthrough
  malformed := h.malformed.trans h'.malformed
  text := h.text.trans h'.text
  body := fun hd => (h.body (h'.malformed.trans hd)).trans (h'.body hd)

theorem Agrees.symm {b c : Block} (h : b.Agrees c) : c.Agrees b where
  selectors := h.selectors.symm
  keyword := h.keyword.symm
  kind := h.kind.symm
  condition := h.condition.symm
  passthrough := h.passthrough.symm
  malformed := h.malformed.symm
  text := h.text.symm
  body := fun hb => (h.body (h.malformed.symm.trans hb)).symm

theorem Agrees.header {b c : Block} (h : b.Agrees c) : b.header = c.header := by
  unfold Block.header isAtRule
  rw [h.passthrough, h.keyword, h.condition, h.selectors]

theorem Agrees.inner {b c : Block} (h : b.Agrees c) (hc : c.malformed = false) :
    b.inner = c.inner := by
  unfold Block.inner
  rw [h.body hc, h.malformed]

end Block

namespace Piece

/-- Whether two pieces say the same, wherever they stand. -/
def Agrees (p q : Piece) : Prop := ∀ m n, (Block.ofPiece m p).Agrees (Block.ofPiece n q)

theorem Agrees.trans {p q r : Piece} (h : p.Agrees q) (h' : q.Agrees r) : p.Agrees r := by
  intro m n
  exact (h m m).trans (h' m n)

theorem Agrees.symm {p q : Piece} (h : p.Agrees q) : q.Agrees p := by
  intro m n
  exact (h n m).symm

/-- Fragments agree when their texts do. -/
theorem agrees_fragment {xs ys : List Lexeme} (h : (fragment xs).text = (fragment ys).text) :
    (fragment xs).Agrees (fragment ys) := by
  intro m n
  exact ⟨rfl, rfl, rfl, rfl, rfl, rfl, h, fun _ => h⟩

/-- Rules agree when their texts and the texts of their headers do, and, if they are closed, what
stands between the braces. -/
theorem agrees_rule {header header' inner inner' : List Lexeme} {closed : Bool}
    (htext : (rule header inner closed).text = (rule header' inner' closed).text)
    (hheader : Text.trim (Lexeme.textOf (header.filter (!·.isComment))) =
      Text.trim (Lexeme.textOf (header'.filter (!·.isComment))))
    (hinner : closed = true → inner = inner') :
    (rule header inner closed).Agrees (rule header' inner' closed) := by
  intro m n
  have htexts : (Block.ofPiece m (rule header inner closed)).text =
      (Block.ofPiece n (rule header' inner' closed)).text := by
    rw [Block.text_ofPiece, Block.text_ofPiece, htext]
  simp only [Block.ofPiece, Block.ofRule] at htexts ⊢
  rw [hheader] at htexts ⊢
  -- both headers are the same text, so they have the same keyword
  cases hkey : atKeyword? (Text.trim (Lexeme.textOf (header'.filter (!·.isComment)))) with
  | none =>
    rw [hkey] at htexts
    refine ⟨rfl, rfl, rfl, rfl, rfl, rfl, htexts, ?_⟩
    intro hclosed
    rw [hinner (by simpa using hclosed)]
  | some found =>
    rw [hkey] at htexts
    refine ⟨rfl, rfl, rfl, rfl, rfl, rfl, htexts, ?_⟩
    intro hclosed
    rw [hinner (by simpa using hclosed)]

theorem Agrees.refl (p : Piece) : p.Agrees p := by
  cases p with
  | fragment => exact agrees_fragment rfl
  | rule => exact agrees_rule rfl rfl (fun _ => rfl)

/-- Blanks in front of a piece do not change what it says. -/
theorem agrees_behind {lead : List Lexeme} (hlead : lead.all Lexeme.isBlank) (p : Piece) :
    (p.behind lead).Agrees p := by
  have htext : (p.behind lead).text = p.text := text_behind hlead p
  cases p with
  | fragment source => exact agrees_fragment htext
  | rule header inner closed =>
    refine agrees_rule htext ?_ (fun _ => rfl)
    have hblank : (lead.filter (!·.isComment)).all Lexeme.isBlank := by
      rw [List.all_eq_true] at hlead ⊢
      intro l hl
      exact hlead l (List.mem_filter.1 hl).1
    rw [List.filter_append, Lexeme.textOf_append,
      Text.trim_append_of_isBlankText (Lexeme.isBlankText_textOf hblank)]

end Piece

namespace Lexeme

/-! ## Lexemes that are clipped -/

theorem isBlank_clip {l : Lexeme} (hl : l.isBlank = false) : l.clip.isBlank = false := by
  cases l with
  | escape c =>
    rw [clip]
    split
    · decide
    · rfl
  | plain c => exact hl
  | quoted | comment => rfl

theorem isComment_clip (l : Lexeme) : l.clip.isComment = l.isComment := by
  cases l with
  | escape c =>
    rw [clip]
    split <;> rfl
  | plain | quoted | comment => rfl

theorem brace_clip (l : Lexeme) : brace l.clip = brace l := by
  cases l with
  | escape c =>
    rw [clip]
    split <;> rfl
  | plain c => rfl
  | quoted | comment => rfl

theorem endsHeader_clip (depth : Nat) (l : Lexeme) :
    Piece.endsHeader depth l.clip = Piece.endsHeader depth l := by
  rw [Bool.eq_iff_iff, Piece.endsHeader_iff, Piece.endsHeader_iff]
  cases l with
  | escape c =>
    rw [clip]
    split <;> simp
  | plain c => rfl
  | quoted | comment => simp [clip]

/-- A sequence that does not hold blanks only has a last lexeme that is no blank. -/
theorem exists_last_not_blank {ls : List Lexeme} (h : ls.all isBlank = false) :
    ∃ xs l ws, ls = xs ++ l :: ws ∧ l.isBlank = false ∧ ws.all isBlank := by
  induction ls with
  | nil => exact absurd h.symm Bool.false_ne_true
  | cons x xs ih =>
    cases hxs : xs.all isBlank with
    | true =>
      refine ⟨[], x, xs, rfl, ?_, hxs⟩
      rwa [List.all_cons, hxs, Bool.and_true] at h
    | false =>
      obtain ⟨ys, l, ws, rfl, hl, hws⟩ := ih hxs
      exact ⟨x :: ys, l, ws, rfl, hl, hws⟩

end Lexeme

namespace Piece

open Lexeme (level Nested)

/-! ## The last piece -/

theorem behind_nil (p : Piece) : p.behind [] = p := by
  cases p <;> rfl

/-- The three characters that end a header are no blanks. -/
theorem isBlank_of_endsHeader {depth : Nat} {l : Lexeme} (h : endsHeader depth l) :
    l.isBlank = false ∧ l.clip = l := by
  rcases endsHeader_iff.1 h with rfl | rfl | ⟨rfl, _⟩
  all_goals exact ⟨by decide, rfl⟩

/-- A sequence still starts with something else than a blank when its end is clipped. -/
theorem opens_clip {xs ws : List Lexeme} {l : Lexeme} (h : Opens (xs ++ l :: ws)) :
    Opens (xs ++ [l.clip]) := by
  cases xs with
  | nil =>
    obtain ⟨first, rest, heq, hblank, hcomment⟩ := h
    obtain ⟨rfl, rfl⟩ := List.cons.inj heq
    exact ⟨l.clip, [], rfl, Lexeme.isBlank_clip hblank, (Lexeme.isComment_clip l).trans hcomment⟩
  | cons x xs =>
    obtain ⟨first, rest, heq, hfirst⟩ := h
    obtain ⟨rfl, rfl⟩ := List.cons.inj heq
    exact ⟨x, xs ++ [l.clip], rfl, hfirst⟩

theorem noHeaderEnd_clip {xs ws : List Lexeme} {l : Lexeme} {depth : Nat}
    (h : NoHeaderEnd depth (xs ++ l :: ws)) : NoHeaderEnd depth (xs ++ [l.clip]) := by
  obtain ⟨hxs, hrest⟩ := noHeaderEnd_append_iff.1 h
  obtain ⟨hl, _⟩ := noHeaderEnd_cons_iff.1 hrest
  refine noHeaderEnd_append_iff.2 ⟨hxs, noHeaderEnd_cons_iff.2 ⟨?_, noHeaderEnd_nil _⟩⟩
  rw [Lexeme.endsHeader_clip, hl]

theorem nested_clip {xs ws : List Lexeme} {l : Lexeme} {depth : Int}
    (h : Nested depth (xs ++ l :: ws)) : Nested depth (xs ++ [l.clip]) := by
  obtain ⟨hxs, hrest⟩ := Lexeme.nested_append_iff.1 h
  obtain ⟨hdepth, hws⟩ := Lexeme.nested_cons_iff.1 hrest
  refine Lexeme.nested_append_iff.2 ⟨hxs, Lexeme.nested_cons_iff.2 ⟨hdepth, ?_⟩⟩
  rw [Lexeme.brace_clip]
  exact Lexeme.nested_nil_iff.2 hws.depth_nonneg

/-- The text of a piece without blanks in front, as lexemes: the last one that is no blank is
clipped. -/
theorem lexemes_text {p : Piece} (hp : Whole p ∨ Unfinished p)
    (hread : Lexeme.IsReading p.lexemes) {xs ws : List Lexeme} {l : Lexeme}
    (heq : p.lexemes = xs ++ l :: ws) (hl : l.isBlank = false) (hws : ws.all Lexeme.isBlank) :
    Text.lexemes p.text = xs ++ [l.clip] := by
  obtain ⟨first, rest, hfirst, hblank⟩ := exists_lexemes_eq_cons hp
  have htrim : p.text = Text.trimEnd (Lexeme.textOf p.lexemes) := by
    rw [text, hfirst]
    rw [hfirst] at hread
    exact hread.trim_textOf_cons hblank
  rw [heq] at hread
  rw [htrim, heq, hread.lexemes_trimEnd hl hws]

/-- A whole piece without blanks in front is cut off as it is. -/
theorem Whole.ofLexemes_lexemes_append {p : Piece} (hp : Whole p) (rest : List Lexeme) :
    ofLexemes (p.lexemes ++ rest) = p :: ofLexemes rest := by
  have hcut := @Whole.ofLexemes_append p hp [] rfl rest
  rwa [List.nil_append, behind_nil] at hcut

/-- A piece is what its own lexemes are cut into. -/
theorem ofLexemes_lexemes {p : Piece} (hp : Whole p ∨ Unfinished p) :
    ofLexemes p.lexemes = [p] := by
  rcases hp with hp | hp
  · have hcut := hp.ofLexemes_lexemes_append []
    have hnil : ofLexemes [] = [] := ofLexemes_of_blanks rfl
    rwa [List.append_nil, hnil] at hcut
  · have hcut := @Unfinished.ofLexemes_eq p hp [] rfl
    rwa [List.nil_append, behind_nil] at hcut

/-- A whole piece that is no comment has no blanks at its end to lose. -/
theorem Whole.lexemes_text {p : Piece} (hp : Whole p) (hread : Lexeme.IsReading p.lexemes) :
    (∃ body, p = fragment [.comment body]) ∨ Text.lexemes p.text = p.lexemes := by
  have hlexemes := @Piece.lexemes_text p (.inl hp) hread
  cases hp with
  | comment body => exact .inl ⟨body, rfl⟩
  | @statement front stop hopens hfront hstop hne =>
    obtain ⟨hblank, hclip⟩ := isBlank_of_endsHeader hstop
    have hlex := hlexemes rfl hblank rfl
    rw [hclip] at hlex
    exact .inr hlex
  | @rule header inner hopens hheader hinner hlevel =>
    have heq : (Piece.rule header inner true).lexemes =
        (header ++ .plain '{' :: inner) ++ [.plain '}'] := rfl
    exact .inr (hlexemes heq (by decide) rfl)

/-- The text of a comment, as lexemes: one comment again. -/
theorem lexemes_text_comment {body : Text}
    (hread : Lexeme.IsReading (fragment [.comment body]).lexemes) :
    Text.lexemes (fragment [.comment body]).text = [(Lexeme.comment body).clip] :=
  @Piece.lexemes_text _ (.inl (.comment body)) hread [] [] _ rfl rfl rfl

/-- The text of a whole piece is read as a whole piece that says the same. -/
theorem Whole.exists_lexemes_text {p : Piece} (hp : Whole p) (hread : Lexeme.IsReading p.lexemes) :
    ∃ q, Whole q ∧ Text.lexemes p.text = q.lexemes ∧ (q.text = p.text → q.Agrees p) := by
  rcases hp.lexemes_text hread with ⟨body, rfl⟩ | hlex
  · exact ⟨fragment [.comment (Text.trimEnd body)], .comment _, lexemes_text_comment hread,
      agrees_fragment⟩
  · exact ⟨p, hp, hlex, fun _ => Agrees.refl p⟩

/-- The text of an unfinished piece is read as an unfinished piece that says the same. -/
theorem Unfinished.exists_lexemes_text {p : Piece} (hp : Unfinished p)
    (hread : Lexeme.IsReading p.lexemes) :
    ∃ q, Unfinished q ∧ Text.lexemes p.text = q.lexemes ∧ (q.text = p.text → q.Agrees p) := by
  have hlexemes := @Piece.lexemes_text p (.inr hp) hread
  cases hp with
  | @statement front hopens hfront =>
    have hsolid : front.all Lexeme.isBlank = false := by
      obtain ⟨first, rest, rfl, hblank, _⟩ := hopens
      rw [List.all_cons, hblank, Bool.false_and]
    obtain ⟨xs, l, ws, rfl, hl, hws⟩ := Lexeme.exists_last_not_blank hsolid
    exact ⟨fragment (xs ++ [l.clip]), .statement (opens_clip hopens) (noHeaderEnd_clip hfront),
      hlexemes rfl hl hws, agrees_fragment⟩
  | @rule header inner hopens hheader hinner =>
    have hopen : false = true → ∀ xs : List Lexeme, xs = inner :=
      fun h => absurd h Bool.false_ne_true
    -- the brace is the last lexeme that counts when only blanks follow it
    cases hsolid : inner.all Lexeme.isBlank with
    | true =>
      have heq : (Piece.rule header inner false).lexemes = header ++ .plain '{' :: inner :=
        List.append_nil _
      have hlex := hlexemes heq (by decide) hsolid
      have hempty : Nested 0 [] := Lexeme.nested_nil_iff.2 (Int.le_refl 0)
      refine ⟨Piece.rule header [] false, .rule hopens hheader hempty, ?_, ?_⟩
      · rw [hlex, lexemes]
        simp [Lexeme.clip]
      · intro htext
        exact agrees_rule htext rfl (fun h => hopen h [])
    | false =>
      obtain ⟨xs, l, ws, rfl, hl, hws⟩ := Lexeme.exists_last_not_blank hsolid
      have heq : (Piece.rule header (xs ++ l :: ws) false).lexemes =
          (header ++ .plain '{' :: xs) ++ l :: ws := by
        simp [lexemes]
      have hlex := hlexemes heq hl hws
      refine ⟨Piece.rule header (xs ++ [l.clip]) false,
        .rule hopens hheader (nested_clip hinner), ?_, ?_⟩
      · rw [hlex, lexemes]
        simp
      · intro htext
        exact agrees_rule htext rfl (fun h => hopen h _)

/-- The text of a piece, read again, is one piece that says the same. -/
theorem exists_ofLexemes_text {p : Piece} (hp : Whole p ∨ Unfinished p)
    (hread : Lexeme.IsReading p.lexemes) :
    ∃ q, ofLexemes (Text.lexemes p.text) = [q] ∧ q.Agrees p := by
  have hfound : ∃ q, (Whole q ∨ Unfinished q) ∧ Text.lexemes p.text = q.lexemes ∧
      (q.text = p.text → q.Agrees p) := by
    rcases hp with hp | hp
    · obtain ⟨q, hq, hrest⟩ := hp.exists_lexemes_text hread
      exact ⟨q, .inl hq, hrest⟩
    · obtain ⟨q, hq, hrest⟩ := hp.exists_lexemes_text hread
      exact ⟨q, .inr hq, hrest⟩
  obtain ⟨q, hq, hlex, hagrees⟩ := hfound
  refine ⟨q, by rw [hlex, ofLexemes_lexemes hq], hagrees ?_⟩
  rw [text, ← hlex, Text.textOf_lexemes, text, Text.trim_trim]

/-! ## The other pieces -/

/-- A whole piece that something follows has no blanks at its end to lose. -/
theorem Whole.text_eq {p : Piece} (hp : Whole p) {ys : List Lexeme}
    (hread : Lexeme.IsReading (p.lexemes ++ ys)) (hne : ys ≠ []) :
    p.text = Lexeme.textOf p.lexemes := by
  suffices hlex : Text.lexemes p.text = p.lexemes by
    rw [← hlex, Text.textOf_lexemes]
  rcases hp.lexemes_text hread.of_append_left with ⟨body, rfl⟩ | hlex
  · have hreads := (Lexeme.isReading_cons_iff.1 hread).1
    rw [lexemes_text_comment hread.of_append_left,
      hreads.clip_comment (Lexeme.textOf_ne_nil hne)]
    rfl
  · exact hlex

/-- A whole piece that something follows is read the same in front of a line break. -/
theorem Whole.lexemes_text_append {p : Piece} (hp : Whole p) {ys : List Lexeme}
    (hread : Lexeme.IsReading (p.lexemes ++ ys)) (hne : ys ≠ []) (t : Text) :
    Text.lexemes (p.text ++ '\n' :: t) = p.lexemes ++ .plain '\n' :: Text.lexemes t := by
  have hbreak : ('\n' :: t).head? = some '*' → (Lexeme.textOf ys).head? = some '*' := by
    intro h
    simp at h
  rw [hp.text_eq hread hne, hread.lexemes_append hne hbreak, Text.lexemes_cons]
  · rfl
  · intro h
    exact absurd h (by decide)
  · intro h
    exact absurd h (by decide)

/-! ## The assembly -/

/-- A blank in front of a sequence belongs to its first piece. -/
theorem Cut.cons_blank {ls : List Lexeme} {ps : List Piece} (h : Cut ls ps) {w : Lexeme}
    (hw : w.isBlank) : Cut (w :: ls) (ps.modifyHead (behind [w])) := by
  cases h with
  | blanks h => exact .blanks (by rw [List.all_cons, hw, h]; rfl)
  | @whole lead rest p ps hlead hp hrest =>
    have hlead' : (w :: lead).all Lexeme.isBlank := by rw [List.all_cons, hw, hlead]; rfl
    have hcut := Cut.whole hlead' hp hrest
    rw [← List.singleton_append, behind_append] at hcut
    exact hcut
  | @unfinished lead p hlead hp =>
    have hlead' : (w :: lead).all Lexeme.isBlank := by rw [List.all_cons, hw, hlead]; rfl
    have hcut := Cut.unfinished hlead' hp
    rw [← List.singleton_append, behind_append] at hcut
    exact hcut

/-- A blank in front of the first piece does not change what the pieces say. -/
theorem forall₂_agrees_cons_blank {ls : List Lexeme} {qs : List Piece} {w : Lexeme}
    (hw : w.isBlank) (h : List.Forall₂ Agrees (ofLexemes ls) qs) :
    List.Forall₂ Agrees (ofLexemes (w :: ls)) qs := by
  rw [((cut_ofLexemes ls).cons_blank hw).ofLexemes_eq]
  have hlead : [w].all Lexeme.isBlank := by rw [List.all_cons, hw]; rfl
  generalize ofLexemes ls = ps at h
  cases h with
  | nil => exact .nil
  | cons hpq hrest =>
    exact .cons ((agrees_behind hlead _).trans hpq) hrest

/-- The text of a piece behind blanks, read again, is one piece that says the same. -/
theorem forall₂_agrees_text {p : Piece} (hp : Whole p ∨ Unfinished p)
    (hread : Lexeme.IsReading p.lexemes) {lead : List Lexeme} (hlead : lead.all Lexeme.isBlank) :
    List.Forall₂ Agrees (ofLexemes (Text.lexemes (p.behind lead).text)) [p.behind lead] := by
  obtain ⟨q, hq, hagrees⟩ := exists_ofLexemes_text hp hread
  rw [text_behind hlead, hq]
  exact .cons (hagrees.trans (agrees_behind hlead p).symm) .nil

/-- Whether a piece is read the same in front of a line break: it is whole, and something has
followed it. -/
def StandsAlone (p : Piece) : Prop :=
  Whole p ∧ ∃ ys, ys ≠ [] ∧ Lexeme.IsReading (p.lexemes ++ ys)

/-- Pieces that can be written one below the other.  All but the last of them stand alone. -/
inductive Stacked : List Piece → Prop where
  | nil : Stacked []
  | last {lead : List Lexeme} {p : Piece} (hlead : lead.all Lexeme.isBlank)
      (hp : Whole p ∨ Unfinished p) (hread : Lexeme.IsReading p.lexemes) : Stacked [p.behind lead]
  | cons {lead : List Lexeme} {p : Piece} {ps : List Piece} (hlead : lead.all Lexeme.isBlank)
      (hp : p.StandsAlone) (hps : Stacked ps) : Stacked (p.behind lead :: ps)

/-- The texts of such pieces, one below the other, are read as pieces that say the same.  A piece
that stands alone is read the same in front of what follows it; the last of the pieces is read
alone. -/
theorem Stacked.forall₂_agrees {ps : List Piece} (h : Stacked ps) :
    List.Forall₂ Agrees (ofLexemes (Text.lexemes (Text.joinWith ['\n'] (ps.map text)))) ps := by
  induction h with
  | nil =>
    rw [List.map_nil, Text.joinWith_nil, Text.lexemes_nil, ofLexemes_of_blanks rfl]
    exact .nil
  | last hlead hp hread =>
    rw [List.map_singleton, Text.joinWith_singleton]
    exact forall₂_agrees_text hp hread hlead
  | @cons lead p ps hlead hp hps ih =>
    obtain ⟨hwhole, ys, hne, hread⟩ := hp
    cases ps with
    | nil =>
      rw [List.map_singleton, Text.joinWith_singleton]
      exact forall₂_agrees_text (.inl hwhole) hread.of_append_left hlead
    | cons q ps =>
      rw [List.map_cons, List.map_cons, Text.joinWith_cons_cons, text_behind hlead,
        List.singleton_append, hwhole.lexemes_text_append hread hne,
        hwhole.ofLexemes_lexemes_append]
      exact .cons (agrees_behind hlead p).symm (forall₂_agrees_cons_blank (by decide) ih)

theorem Stacked.text_ne_nil {ps : List Piece} (h : Stacked ps) : ∀ p ∈ ps, p.text ≠ [] := by
  induction h with
  | nil => exact fun p hp => absurd hp List.not_mem_nil
  | last hlead hp hread =>
    rw [List.forall_mem_singleton, text_behind hlead]
    exact Piece.text_ne_nil hp hread
  | cons hlead hp _ ih =>
    obtain ⟨hwhole, ys, -, hread⟩ := hp
    rw [List.forall_mem_cons, text_behind hlead]
    exact ⟨Piece.text_ne_nil (.inl hwhole) hread.of_append_left, ih⟩

/-- Some pieces of a cut can be written one below the other, and pieces that stand alone can take
the places of any of them.  The induction is on the cut. -/
theorem Cut.stacked {ls : List Lexeme} {ps : List Piece} (hcut : Cut ls ps)
    (hread : Lexeme.IsReading ls) {qs rs : List Piece} (hsub : qs.Sublist ps)
    (hrs : List.Forall₂ (fun q r => r = q ∨ r.StandsAlone) qs rs) : Stacked rs := by
  have halone : ∀ {r : Piece} {rs : List Piece}, r.StandsAlone → Stacked rs →
      Stacked (r :: rs) := by
    intro r rs hr hrs
    have hstacked := @Stacked.cons [] r rs rfl hr hrs
    rwa [behind_nil] at hstacked
  induction hcut generalizing qs rs with
  | blanks =>
    obtain rfl := List.sublist_nil.1 hsub
    obtain rfl := List.forall₂_nil_left_iff.1 hrs
    exact .nil
  | @whole lead rest p ps hlead hp hrest ih =>
    have hcore : Lexeme.IsReading (p.lexemes ++ rest) := hread.of_append_right
    cases hsub with
    | cons _ hsub => exact ih hcore.of_append_right hsub hrs
    | cons_cons _ hsub =>
      obtain ⟨r, rs, hr, hmore, rfl⟩ := List.forall₂_cons_left_iff.1 hrs
      have htail := ih hcore.of_append_right hsub hmore
      rcases hr with rfl | hr
      · by_cases hne : rest = []
        · rw [hne] at hrest
          rw [← hrest.ofLexemes_eq, ofLexemes_of_blanks rfl] at hsub
          obtain rfl := List.sublist_nil.1 hsub
          obtain rfl := List.forall₂_nil_left_iff.1 hmore
          exact .last hlead (.inl hp) hcore.of_append_left
        · exact .cons hlead ⟨hp, rest, hne, hcore⟩ htail
      · exact halone hr htail
  | @unfinished lead p hlead hp =>
    have hcore : Lexeme.IsReading p.lexemes := hread.of_append_right
    cases hsub with
    | cons _ hsub =>
      obtain rfl := List.sublist_nil.1 hsub
      obtain rfl := List.forall₂_nil_left_iff.1 hrs
      exact .nil
    | cons_cons _ hsub =>
      obtain rfl := List.sublist_nil.1 hsub
      obtain ⟨r, rs, hr, hmore, rfl⟩ := List.forall₂_cons_left_iff.1 hrs
      obtain rfl := List.forall₂_nil_left_iff.1 hmore
      rcases hr with rfl | hr
      · exact .last hlead (.inr hp) hcore
      · exact halone hr .nil

end Piece

namespace Block

/-- The blocks of pieces, each with its piece. -/
theorem forall₂_ofPieces (order : Nat) (ps : List Piece) :
    List.Forall₂ (fun b p => ∃ n, b = ofPiece n p) (ofPieces order ps) ps := by
  induction ps generalizing order with
  | nil => exact .nil
  | cons p ps ih => exact .cons ⟨order, rfl⟩ (ih (order + 1))

/-- A selection of the blocks of pieces is made of the blocks of a selection of the pieces. -/
theorem exists_sublist_of_sublist_ofPieces {sub : List Block} {order : Nat} {ps : List Piece}
    (h : sub.Sublist (ofPieces order ps)) :
    ∃ qs, qs.Sublist ps ∧ List.Forall₂ (fun b q => ∃ n, b = ofPiece n q) sub qs := by
  induction ps generalizing order sub with
  | nil =>
    obtain rfl := List.sublist_nil.1 h
    exact ⟨[], List.Sublist.refl [], .nil⟩
  | cons p ps ih =>
    rw [ofPieces] at h
    cases h with
    | cons _ h =>
      obtain ⟨qs, hqs, hsub⟩ := ih h
      exact ⟨qs, hqs.cons p, hsub⟩
    | cons_cons _ h =>
      obtain ⟨qs, hqs, hsub⟩ := ih h
      exact ⟨p :: qs, hqs.cons_cons p, .cons ⟨order, rfl⟩ hsub⟩

/-- Whether a block is read the same wherever it is written. -/
def StandsAlone (b : Block) : Prop :=
  ∃ p : Piece, p.StandsAlone ∧ ∀ n, (ofPiece n p).Agrees b

/-- Blocks that stand alone, in the places of some blocks, are made of pieces that stand alone, in
the places of their pieces. -/
theorem exists_pieces_of_standsAlone {sub bs : List Block} {qs : List Piece}
    (hqs : List.Forall₂ (fun b q => ∃ n, b = ofPiece n q) sub qs)
    (hbs : List.Forall₂ (fun b c => c = b ∨ c.StandsAlone) sub bs) :
    ∃ rs, List.Forall₂ (fun q r => r = q ∨ r.StandsAlone) qs rs ∧
      List.Forall₂ (fun b r => ∀ n, (ofPiece n r).Agrees b) bs rs := by
  induction hqs generalizing bs with
  | nil =>
    obtain rfl := List.forall₂_nil_left_iff.1 hbs
    exact ⟨[], .nil, .nil⟩
  | @cons b q sub qs hbq _ ih =>
    obtain ⟨c, cs, hc, hcs, rfl⟩ := List.forall₂_cons_left_iff.1 hbs
    obtain ⟨rs, hrs, hagrees⟩ := ih hcs
    rcases hc with rfl | ⟨r, hr, hrc⟩
    · obtain ⟨n, rfl⟩ := hbq
      exact ⟨q :: rs, .cons (.inl rfl) hrs, .cons (fun m => Piece.Agrees.refl q m n) hagrees⟩
    · exact ⟨r :: rs, .cons (.inr hr) hrs, .cons hrc hagrees⟩

/-- What is written of blocks is the texts of their pieces. -/
theorem serialize_eq_joinWith {bs : List Block} {qs : List Piece}
    (h : List.Forall₂ (fun b q => ∀ n, (ofPiece n q).Agrees b) bs qs)
    (hne : ∀ q ∈ qs, q.text ≠ []) :
    serialize bs = Text.joinWith ['\n'] (qs.map Piece.text) := by
  have htexts : bs.map text = qs.map Piece.text := by
    clear hne
    induction h with
    | nil => rfl
    | cons hbq _ ih => rw [List.map_cons, List.map_cons, ← (hbq 0).text, text_ofPiece, ih]
  rw [serialize, htexts, List.filter_eq_self.2]
  intro t ht
  obtain ⟨q, hq, rfl⟩ := List.mem_map.1 ht
  simpa using hne q hq

/-- Pieces that say the same as the pieces of blocks make blocks that say the same. -/
theorem forall₂_agrees_of_pieces {ps qs : List Piece} {bs : List Block} (order : Nat)
    (h : List.Forall₂ Piece.Agrees ps qs)
    (hbs : List.Forall₂ (fun b q => ∀ n, (ofPiece n q).Agrees b) bs qs) :
    List.Forall₂ Agrees (ofPieces order ps) bs := by
  induction h generalizing order bs with
  | nil =>
    obtain rfl := List.forall₂_nil_right_iff.1 hbs
    exact .nil
  | cons hpq _ ih =>
    obtain ⟨b, cs, hb, hcs, rfl⟩ := List.forall₂_cons_right_iff.1 hbs
    exact .cons ((hpq order order).trans (hb order)) (ih (order + 1) hcs)

theorem forall₂_agrees_ofPieces {ps qs : List Piece} {sub : List Block} (order : Nat)
    (h : List.Forall₂ Piece.Agrees ps qs)
    (hsub : List.Forall₂ (fun b q => ∃ n, b = ofPiece n q) sub qs) :
    List.Forall₂ Agrees (ofPieces order ps) sub := by
  refine forall₂_agrees_of_pieces order h (hsub.imp ?_)
  rintro b q ⟨n, rfl⟩ m
  exact Piece.Agrees.refl q m n

/-- **Writing and reading.**  Let blocks that stand alone take the places of some blocks in a
selection of the blocks of a stylesheet.  The list, written and read again, agrees with itself block
by block. -/
theorem forall₂_agrees_segment_serialize_of_standsAlone {keepComments : Bool} {css : Text}
    {sub bs : List Block} (hsub : sub.Sublist (segmentWith keepComments css))
    (hbs : List.Forall₂ (fun b c => c = b ∨ c.StandsAlone) sub bs) :
    List.Forall₂ Agrees (segment (serialize bs)) bs := by
  obtain ⟨qs, hqs, hblocks⟩ := exists_sublist_of_sublist_ofPieces hsub
  obtain ⟨rs, hrs, hagrees⟩ := exists_pieces_of_standsAlone hblocks hbs
  have hcut := Piece.cut_ofLexemes
    (Text.lexemes (if keepComments then css else Text.stripComments css))
  have hread := Lexeme.isReading_lexemes (if keepComments then css else Text.stripComments css)
  have hstacked := hcut.stacked hread hqs hrs
  rw [serialize_eq_joinWith hagrees hstacked.text_ne_nil]
  exact forall₂_agrees_of_pieces 0 hstacked.forall₂_agrees hagrees

/-- A selection of the blocks of a stylesheet, written and read again, agrees with the selection
block by block. -/
theorem forall₂_agrees_segment_serialize {keepComments : Bool} {css : Text} {sub : List Block}
    (hsub : sub.Sublist (segmentWith keepComments css)) :
    List.Forall₂ Agrees (segment (serialize sub)) sub :=
  forall₂_agrees_segment_serialize_of_standsAlone hsub (List.forall₂_same.2 fun _ _ => .inl rfl)

theorem map_text_of_forall₂_agrees {bs cs : List Block} (h : List.Forall₂ Agrees bs cs) :
    bs.map text = cs.map text := by
  induction h with
  | nil => rfl
  | cons hbc _ ih => rw [List.map_cons, List.map_cons, hbc.text, ih]

/-- Nothing is written only if there is nothing to write. -/
theorem eq_nil_of_isBlankText_serialize {keepComments : Bool} {css : Text} {sub : List Block}
    (hsub : sub.Sublist (segmentWith keepComments css)) (h : Text.isBlankText (serialize sub)) :
    sub = [] := by
  have hagrees := forall₂_agrees_segment_serialize hsub
  rw [segment_of_isBlankText h] at hagrees
  exact List.forall₂_nil_left_iff.1 hagrees

/-- Writing and reading is a fixpoint on any selection of blocks: there are as many blocks as
before, each of them agrees with the one it was written from, and they are numbered anew. -/
theorem segment_serialize_sublist (keepComments : Bool) (css : Text) (sub : List Block)
    (hsub : sub.Sublist (segmentWith keepComments css)) :
    (segment (serialize sub)).length = sub.length ∧
      ∀ (i : Nat) (b : Block), sub[i]? = some b →
        ∃ c, (segment (serialize sub))[i]? = some c ∧ c.Agrees b ∧ c.order = i := by
  have hagrees := forall₂_agrees_segment_serialize hsub
  refine ⟨hagrees.length_eq, ?_⟩
  intro i b hb
  obtain ⟨hi, rfl⟩ := List.getElem?_eq_some_iff.1 hb
  have hj : i < (segment (serialize sub)).length := by
    rw [hagrees.length_eq]
    exact hi
  have hc := List.getElem?_eq_getElem hj
  exact ⟨_, hc, hagrees.get hj hi, order_of_getElem?_segment hc⟩

/-- A comment, and a media block that the input leaves open behind a backslash.  The rule between
them is left out. -/
theorem segment_serialize_sublist_unclosed :
    let css := "/* c */ .a\x7b\x7d\n@media x\x7b.b\x7b \\ ".toList
    let sub : List Block :=
      [{ body := "/* c */".toList, passthrough := true, source := "/* c */".toList },
        { body := "\x7b.b\x7b \\ ".toList, kind := .media, condition := "x".toList, order := 2,
          malformed := true, keyword := "media".toList,
          source := "\n@media x\x7b.b\x7b \\ ".toList }]
    sub.Sublist (segmentWith true css) ∧
      (segment (serialize sub)).length = sub.length ∧
        ∀ (i : Nat) (b : Block), sub[i]? = some b →
          ∃ c, (segment (serialize sub))[i]? = some c ∧ c.Agrees b ∧ c.order = i := by
  intro css sub
  have hsub : sub.Sublist (segmentWith true css) := by decide +kernel
  exact ⟨hsub, segment_serialize_sublist true css sub hsub⟩

end Block

end CssTrim
