import CssTrim.Proofs.Block.Braces
import CssTrim.Proofs.Block.Serialize

/-!
# Stylesheets that are put together from texts

When is a text read the same behind another one?  There are three groups.

* Blanks.  Blanks in front of a text, and blanks around it, do not change what
  its pieces say: `Piece.forall₂_agrees_blank_append` and
  `Piece.forall₂_agrees_trim`.
* Texts that end between two pieces.  `Text.isSettled` says that every piece of
  a text ends by itself, so that what follows the text starts a new piece.
  `Piece.forall₂_agrees_settled` says that such a text, with a line break behind
  it, is read as its own pieces and those of what follows.
* The inside of a rule.  Something follows the inner text of a well-formed rule
  in the stylesheet, namely its brace, and so no string and no comment of it is
  left open.  It closes every brace that it opens, and so do the rules in it.

Blanks at the end of a text cannot be passed over piece by piece, because the
last lexeme that is no blank may take them in.  Both inductions over the cut
therefore trim the end only, and the front is trimmed once, in the end.
-/

namespace CssTrim

namespace Text

/-- A text without blanks at its end keeps what follows it apart. -/
theorem trimEnd_append_of_trimEnd_eq {s : Text} (h : trimEnd s = s) (t : Text) :
    trimEnd (s ++ t) = s ++ trimEnd t := by
  cases ht : isBlankText t with
  | true => rw [trimEnd_append_of_isBlankText s ht, h, trimEnd_eq_nil_iff.2 ht, List.append_nil]
  | false => exact trimEnd_append_of_not_isBlankText s ht

/-- What is left of a text at its front and at its end is the same but for blanks in front. -/
theorem exists_trimEnd_eq_append_trim (t : Text) :
    ∃ w, isBlankText w ∧ trimEnd t = w ++ trim t := by
  obtain ⟨w, hw, ht⟩ := trimStart_append t
  cases hstart : isBlankText (trimStart t) with
  | true =>
    have hblank : isBlankText t = true := by
      rw [ht, isBlankText_append, hw, hstart]
      rfl
    exact ⟨[], rfl, by rw [trimEnd_eq_nil_iff.2 hblank, trim_eq_nil_iff.2 hblank]; rfl⟩
  | false =>
    refine ⟨w, hw, ?_⟩
    rw [trim, ← trimEnd_append_of_not_isBlankText w hstart, ← ht]

/-- What is left of a text starts as the text does. -/
theorem head?_trimEnd_append {t : Text} {c : Char} (s : Text) (hs : s.head? ≠ some c)
    (h : (trimEnd t ++ s).head? = some c) : t.head? = some c := by
  obtain ⟨w, hw⟩ := trimEnd_prefix t
  cases hend : trimEnd t with
  | nil =>
    rw [hend, List.nil_append] at h
    exact absurd h hs
  | cons d rest =>
    rw [hend] at h
    rw [← hw, hend]
    exact h

end Text

namespace Piece

/-! ## Blanks -/

theorem forall₂_agrees_refl (ps : List Piece) : List.Forall₂ Agrees ps ps :=
  List.forall₂_same.2 fun p _ => Agrees.refl p

theorem forall₂_agrees_symm {ps qs : List Piece} (h : List.Forall₂ Agrees ps qs) :
    List.Forall₂ Agrees qs ps := by
  induction h with
  | nil => exact .nil
  | cons hpq _ ih => exact .cons hpq.symm ih

theorem forall₂_agrees_trans {ps qs rs : List Piece} (h : List.Forall₂ Agrees ps qs)
    (h' : List.Forall₂ Agrees qs rs) : List.Forall₂ Agrees ps rs := by
  induction h generalizing rs with
  | nil => exact h'
  | cons hpq _ ih =>
    cases h' with
    | cons hqr hrest => exact .cons (hpq.trans hqr) (ih hrest)

theorem lexemes_cons_blank {c : Char} (hc : Text.isBlank c) (t : Text) :
    Text.lexemes (c :: t) = .plain c :: Text.lexemes t := by
  have hne : ∀ d, Text.isBlank d = false → c ≠ d := by
    rintro d hd rfl
    rw [hc] at hd
    exact Bool.noConfusion hd
  have hquote : Text.isQuote c = false := by
    rw [Text.isQuote, Bool.or_eq_false_iff, beq_eq_false_iff_ne, beq_eq_false_iff_ne]
    exact ⟨hne _ (by decide), hne _ (by decide)⟩
  rw [Text.lexemes_cons, hquote]
  · rfl
  · intro h
    exact absurd h (hne _ (by decide))
  · intro h
    exact absurd h (hne _ (by decide))

/-- Blanks in front of a text are lexemes of their own. -/
theorem exists_lexemes_blank_append {w : Text} (hw : Text.isBlankText w) :
    ∃ ws, ws.all Lexeme.isBlank ∧ ∀ t, Text.lexemes (w ++ t) = ws ++ Text.lexemes t := by
  induction w with
  | nil => exact ⟨[], rfl, fun t => rfl⟩
  | cons c w ih =>
    rw [Text.isBlankText_cons, Bool.and_eq_true] at hw
    obtain ⟨ws, hws, hread⟩ := ih hw.2
    refine ⟨.plain c :: ws, by rw [List.all_cons, hws, Bool.and_true]; exact hw.1, fun t => ?_⟩
    rw [List.cons_append, lexemes_cons_blank hw.1, hread, List.cons_append]

/-- Blanks in front of a text do not change what its pieces say. -/
theorem forall₂_agrees_blank_append {w : Text} (hw : Text.isBlankText w) (t : Text) :
    List.Forall₂ Agrees (ofLexemes (Text.lexemes (w ++ t))) (ofLexemes (Text.lexemes t)) := by
  induction w with
  | nil => exact forall₂_agrees_refl _
  | cons c w ih =>
    rw [Text.isBlankText_cons, Bool.and_eq_true] at hw
    rw [List.cons_append, lexemes_cons_blank hw.1]
    exact forall₂_agrees_cons_blank hw.1 (ih hw.2)

/-- Of a whole piece and what follows it, only what follows is trimmed. -/
theorem Whole.trimEnd_append {p : Piece} (hp : Whole p) {ys : List Lexeme}
    (hread : Lexeme.IsReading (p.lexemes ++ ys)) (hne : ys ≠ []) (t : Text) :
    Text.trimEnd (Lexeme.textOf p.lexemes ++ t) = Lexeme.textOf p.lexemes ++ Text.trimEnd t := by
  have htext := hp.text_eq hread hne
  have hself : Text.trim (Lexeme.textOf p.lexemes) = Lexeme.textOf p.lexemes := by
    rw [← htext, text, Text.trim_trim]
  exact Text.trimEnd_append_of_trimEnd_eq (Text.trimEnd_eq_self hself) t

/-- A whole piece in front of a text is read as it is, if a text that starts alike has followed it
before. -/
theorem Whole.lexemes_append {lead : List Lexeme} {p : Piece} {ys : List Lexeme}
    (hp : Whole p) (hlead : lead.all Lexeme.isBlank)
    (hread : Lexeme.IsReading (lead ++ (p.lexemes ++ ys))) (hne : ys ≠ []) {s : Text}
    (hstar : s.head? = some '*' → (Lexeme.textOf ys).head? = some '*') :
    ofLexemes (Text.lexemes (Lexeme.textOf lead ++ (Lexeme.textOf p.lexemes ++ s))) =
      p.behind lead :: ofLexemes (Text.lexemes s) := by
  rw [← List.append_assoc] at hread
  rw [← List.append_assoc, ← Lexeme.textOf_append, hread.lexemes_append hne hstar,
    List.append_assoc, hp.ofLexemes_append hlead]

/-- The text of a piece behind blanks, trimmed at its end, is read as one piece that says the
same. -/
theorem forall₂_agrees_lead_trimEnd {lead : List Lexeme} (hlead : lead.all Lexeme.isBlank)
    {p : Piece} (hp : Whole p ∨ Unfinished p) (hread : Lexeme.IsReading p.lexemes) :
    List.Forall₂ Agrees
      (ofLexemes (Text.lexemes (Text.trimEnd (Lexeme.textOf (lead ++ p.lexemes)))))
      [p.behind lead] := by
  obtain ⟨first, rest, hfirst, hblank⟩ := exists_lexemes_eq_cons hp
  have htrim : Text.trimEnd (Lexeme.textOf (lead ++ p.lexemes)) =
      Lexeme.textOf lead ++ p.text := by
    rw [hfirst] at hread
    have hsolid := (Lexeme.isReading_cons_iff.1 hread).1.isBlankText_text hblank
    have hpiece : Text.isBlankText (Lexeme.textOf p.lexemes) = false := by
      rw [hfirst, Lexeme.textOf_cons, Text.isBlankText_append, hsolid, Bool.false_and]
    rw [Lexeme.textOf_append, Text.trimEnd_append_of_not_isBlankText _ hpiece, text, hfirst,
      hread.trim_textOf_cons hblank]
  rw [htrim]
  have hpiece := forall₂_agrees_text hp hread hlead
  rw [text_behind hlead] at hpiece
  exact forall₂_agrees_trans
    (forall₂_agrees_blank_append (Lexeme.isBlankText_textOf hlead) p.text) hpiece

/-- Blanks at the end of a text do not change what its pieces say.  The induction is on the cut: all
but the last piece are read as they are in front of what is left behind them. -/
theorem forall₂_agrees_trimEnd_textOf {ls : List Lexeme} {ps : List Piece} (hcut : Cut ls ps)
    (hread : Lexeme.IsReading ls) :
    List.Forall₂ Agrees (ofLexemes (Text.lexemes (Text.trimEnd (Lexeme.textOf ls)))) ps := by
  induction hcut with
  | blanks h =>
    rw [Text.trimEnd_eq_nil_iff.2 (Lexeme.isBlankText_textOf h), Text.lexemes_nil,
      ofLexemes_of_blanks rfl]
    exact .nil
  | @whole lead rest p ps hlead hp hrest ih =>
    have hcore : Lexeme.IsReading (p.lexemes ++ rest) := hread.of_append_right
    have htail := ih hcore.of_append_right
    cases hblank : Text.isBlankText (Lexeme.textOf rest) with
    | true =>
      rw [Text.trimEnd_eq_nil_iff.2 hblank, Text.lexemes_nil, ofLexemes_of_blanks rfl] at htail
      obtain rfl := List.forall₂_nil_left_iff.1 htail
      rw [← List.append_assoc, Lexeme.textOf_append, Text.trimEnd_append_of_isBlankText _ hblank]
      exact forall₂_agrees_lead_trimEnd hlead (.inl hp) hcore.of_append_left
    | false =>
      have hne : rest ≠ [] := by
        rintro rfl
        exact Bool.noConfusion hblank
      have hsolid : Text.isBlankText (Lexeme.textOf (p.lexemes ++ rest)) = false := by
        rw [Lexeme.textOf_append, Text.isBlankText_append, hblank, Bool.and_false]
      have hstar : (Text.trimEnd (Lexeme.textOf rest)).head? = some '*' →
          (Lexeme.textOf rest).head? = some '*' := by
        intro h
        rw [← List.append_nil (Text.trimEnd _)] at h
        exact Text.head?_trimEnd_append [] (by simp) h
      rw [Lexeme.textOf_append, Text.trimEnd_append_of_not_isBlankText _ hsolid,
        Lexeme.textOf_append, hp.trimEnd_append hcore hne, hp.lexemes_append hlead hread hne hstar]
      exact .cons (Agrees.refl _) htail
  | @unfinished lead p hlead hp =>
    exact forall₂_agrees_lead_trimEnd hlead (.inr hp) hread.of_append_right

/-- **Blanks around a text do not change what its pieces say.** -/
theorem forall₂_agrees_trim (t : Text) :
    List.Forall₂ Agrees (ofLexemes (Text.lexemes (Text.trim t))) (ofLexemes (Text.lexemes t)) := by
  obtain ⟨w, hw, ht⟩ := Text.trimStart_append t
  have hcut := cut_ofLexemes (Text.lexemes (Text.trimStart t))
  have hend := forall₂_agrees_trimEnd_textOf hcut (Lexeme.isReading_lexemes _)
  rw [Text.textOf_lexemes] at hend
  have hstart := forall₂_agrees_blank_append hw (Text.trimStart t)
  rw [← ht] at hstart
  exact forall₂_agrees_trans hend (forall₂_agrees_symm hstart)

/-! ## Texts that end between two pieces -/

/-- Whether a piece ends by itself: a rule with its closing brace, a comment, or a fragment that
holds the end of a header. -/
def endsItself : Piece → Bool
  | rule _ _ closed => closed
  | fragment source =>
    (source.dropWhile Lexeme.isBlank).head?.any Lexeme.isComment ||
      !(spanHeader 0 source).2.isEmpty

theorem bracketsAfter_of_isBlank {l : Lexeme} (hl : l.isBlank) (depth : Nat) :
    bracketsAfter depth l = depth := by
  unfold bracketsAfter
  split
  · exact absurd hl (by decide)
  · exact absurd hl (by decide)
  · exact absurd hl (by decide)
  · exact absurd hl (by decide)
  · rfl

/-- Blanks do not end a header. -/
theorem noHeaderEnd_blank_append {lead front : List Lexeme} (hlead : lead.all Lexeme.isBlank)
    {depth : Nat} (hfront : NoHeaderEnd depth front) : NoHeaderEnd depth (lead ++ front) := by
  induction lead with
  | nil => exact hfront
  | cons l lead ih =>
    rw [List.all_cons, Bool.and_eq_true] at hlead
    have hl : endsHeader depth l = false := by
      rw [Bool.eq_false_iff]
      intro hend
      have hsolid := (isBlank_of_endsHeader hend).1
      rw [hlead.1] at hsolid
      exact Bool.noConfusion hsolid
    rw [List.cons_append, noHeaderEnd_cons_iff, bracketsAfter_of_isBlank hlead.1]
    exact ⟨hl, ih hlead.2⟩

/-- A piece that only the end of the input ends does not end by itself. -/
theorem Unfinished.endsItself_eq_false {p : Piece} (hp : Unfinished p) {lead : List Lexeme}
    (hlead : lead.all Lexeme.isBlank) : (p.behind lead).endsItself = false := by
  cases hp with
  | rule => rfl
  | @statement front hopens hfront =>
    obtain ⟨first, rest, rfl, hblank, hcomment⟩ := hopens
    have hdrop := (takeWhile_dropWhile_lead hlead hblank rest).2
    have hclear : (spanHeader 0 (lead ++ first :: rest)).2 = [] :=
      noHeaderEnd_blank_append hlead hfront
    rw [behind, endsItself, hdrop, hclear, List.head?_cons, Option.any_some, hcomment]
    rfl

/-- A text that ends between two pieces, trimmed at its end and with a line break behind it, is read
as its own pieces and those of what follows.  Something else, `ys`, has followed the text before, so
that nothing is left open at its end. -/
theorem forall₂_agrees_trimEnd_break {ls : List Lexeme} {ps : List Piece} (hcut : Cut ls ps)
    (hends : ∀ p ∈ ps, p.endsItself) {ys : List Lexeme} (hread : Lexeme.IsReading (ls ++ ys))
    (hne : ys ≠ []) (s : Text) :
    List.Forall₂ Agrees
      (ofLexemes (Text.lexemes (Text.trimEnd (Lexeme.textOf ls) ++ '\n' :: s)))
      (ps ++ ofLexemes (Text.lexemes s)) := by
  have hbreak : Text.isBlankText ['\n'] = true := by decide
  induction hcut with
  | blanks h =>
    rw [Text.trimEnd_eq_nil_iff.2 (Lexeme.isBlankText_textOf h)]
    exact forall₂_agrees_blank_append hbreak s
  | @whole lead rest p ps hlead hp hrest ih =>
    rw [List.append_assoc, List.append_assoc] at hread
    have hcore : Lexeme.IsReading (p.lexemes ++ (rest ++ ys)) := hread.of_append_right
    have hrestNe : rest ++ ys ≠ [] := List.append_ne_nil_of_right_ne_nil rest hne
    have htail := ih (List.forall_mem_cons.1 hends).2 hcore.of_append_right
    have hstar : (Text.trimEnd (Lexeme.textOf rest) ++ '\n' :: s).head? = some '*' →
        (Lexeme.textOf (rest ++ ys)).head? = some '*' := by
      intro h
      have hhead := Text.head?_trimEnd_append _ (by simp) h
      rw [Lexeme.textOf_append, List.head?_append, hhead]
      rfl
    have hblank : Text.isBlankText (Lexeme.textOf (p.lexemes ++ rest)) = false := by
      obtain ⟨first, more, hfirst, hsolid⟩ := exists_lexemes_eq_cons (.inl hp)
      rw [hfirst, List.cons_append] at hcore
      rw [hfirst, List.cons_append, Lexeme.textOf_cons, Text.isBlankText_append,
        (Lexeme.isReading_cons_iff.1 hcore).1.isBlankText_text hsolid, Bool.false_and]
    rw [Lexeme.textOf_append, Text.trimEnd_append_of_not_isBlankText _ hblank,
      Lexeme.textOf_append, hp.trimEnd_append hcore hrestNe, List.append_assoc, List.append_assoc,
      hp.lexemes_append hlead hread hrestNe hstar, List.cons_append]
    exact .cons (Agrees.refl _) htail
  | @unfinished lead p hlead hp =>
    have hend := hends _ List.mem_cons_self
    rw [hp.endsItself_eq_false hlead] at hend
    exact Bool.noConfusion hend

end Piece

/-- Whether a text ends between two pieces, so that what follows it starts a new one. -/
def Text.isSettled (t : Text) : Bool := (Piece.ofLexemes (lexemes t)).all Piece.endsItself

namespace Piece

/-- **Texts one below the other.**  A text that ends between two pieces, with a line break behind
it, is read as its own pieces and those of what follows. -/
theorem forall₂_agrees_settled {ls ys : List Lexeme} (hread : Lexeme.IsReading (ls ++ ys))
    (hne : ys ≠ []) (hsettled : Text.isSettled (Lexeme.textOf ls)) (s : Text) :
    List.Forall₂ Agrees
      (ofLexemes (Text.lexemes (Text.trim (Lexeme.textOf ls) ++ '\n' :: s)))
      (ofLexemes ls ++ ofLexemes (Text.lexemes s)) := by
  have hlexemes : Text.lexemes (Lexeme.textOf ls) = ls := hread.of_append_left
  have hends : ∀ p ∈ ofLexemes ls, p.endsItself := by
    rw [Text.isSettled, hlexemes, List.all_eq_true] at hsettled
    exact hsettled
  have hend := forall₂_agrees_trimEnd_break (cut_ofLexemes ls) hends hread hne s
  obtain ⟨w, hw, htrim⟩ := Text.exists_trimEnd_eq_append_trim (Lexeme.textOf ls)
  rw [htrim, List.append_assoc] at hend
  exact forall₂_agrees_trans (forall₂_agrees_symm (forall₂_agrees_blank_append hw _)) hend

end Piece

open Lexeme (level Nested)

namespace Piece

/-! ## The inside of a rule -/

/-- Without braces no brace is left open. -/
theorem level_of_not_mem {ls : List Lexeme} (hopen : .plain '\x7b' ∉ ls)
    (hclose : .plain '\x7d' ∉ ls) : level ls = 0 := by
  induction ls with
  | nil => rfl
  | cons l ls ih =>
    rw [List.mem_cons, not_or] at hopen hclose
    rw [Lexeme.level_cons, ih hopen.2 hclose.2, Lexeme.brace, if_neg (Ne.symm hopen.1),
      if_neg (Ne.symm hclose.1)]
    rfl

theorem level_of_blanks {ls : List Lexeme} (h : ls.all Lexeme.isBlank) : level ls = 0 := by
  have hsolid : ∀ l ∈ ls, l.isBlank = true := List.all_eq_true.1 h
  apply level_of_not_mem
  · intro hmem
    exact absurd (hsolid _ hmem) (by decide)
  · intro hmem
    exact absurd (hsolid _ hmem) (by decide)

theorem level_of_noHeaderEnd {depth : Nat} {ls : List Lexeme} (h : NoHeaderEnd depth ls) :
    level ls = 0 :=
  level_of_not_mem (not_mem_of_noHeaderEnd h).1 (not_mem_of_noHeaderEnd h).2

/-- No whole piece leaves a brace open. -/
theorem Whole.level_le {p : Piece} (hp : Whole p) : level p.lexemes ≤ 0 := by
  cases hp with
  | comment => exact Int.le_refl 0
  | @statement front stop _ hfront _ hne =>
    have hstop : Lexeme.brace stop ≤ 0 := by
      rw [Lexeme.brace, if_neg hne]
      split <;> decide
    rw [lexemes, Lexeme.level_append, level_of_noHeaderEnd hfront, Lexeme.level_cons,
      Lexeme.level_nil]
    omega
  | @rule header inner _ hheader _ hlevel =>
    have hopen : Lexeme.brace (.plain '\x7b') = 1 := rfl
    have hclose : level [.plain '\x7d'] = -1 := rfl
    rw [lexemes, if_pos rfl, Lexeme.level_append, Lexeme.level_append, Lexeme.level_cons,
      level_of_noHeaderEnd hheader, hlevel, hopen, hclose]
    decide

/-- A rule that the input does not close leaves a brace open. -/
theorem level_pos_of_open {header inner : List Lexeme} (hheader : NoHeaderEnd 0 header)
    (hinner : Nested 0 inner) : 0 < level (rule header inner false).lexemes := by
  have hopen : Lexeme.brace (.plain '\x7b') = 1 := rfl
  have hdepth := hinner inner (List.prefix_refl inner)
  rw [lexemes, if_neg Bool.false_ne_true, List.append_nil, Lexeme.level_append, Lexeme.level_cons,
    level_of_noHeaderEnd hheader, hopen]
  omega

/-- Lexemes that close what they open are cut into pieces that do.  The induction is on the cut:
whole pieces leave no brace open, so that none is left for a piece to close. -/
theorem Cut.level_eq_zero {ls : List Lexeme} {ps : List Piece} (hcut : Cut ls ps)
    (hnested : Nested 0 ls) (hlevel : level ls = 0) {p : Piece} (hp : p ∈ ps) :
    level p.lexemes = 0 := by
  induction hcut with
  | blanks => exact absurd hp List.not_mem_nil
  | @whole lead rest q qs hlead hq _ ih =>
    have hzero := level_of_blanks hlead
    rw [Lexeme.nested_append_iff, Lexeme.nested_append_iff] at hnested
    have hdepth := hnested.2.2.depth_nonneg
    have hle := hq.level_le
    have hwhole : level q.lexemes = 0 := by omega
    rw [Lexeme.level_append, Lexeme.level_append, hzero, hwhole] at hlevel
    have hrest : Nested 0 rest := by
      have htail := hnested.2.2
      rwa [hzero, hwhole] at htail
    rcases List.mem_cons.1 hp with rfl | hp
    · rw [lexemes_behind, Lexeme.level_append, hzero, hwhole]
      rfl
    · exact ih hrest (by omega) hp
  | @unfinished lead q hlead hq =>
    rw [List.mem_singleton.1 hp, lexemes_behind]
    exact hlevel

end Piece

namespace Block

/-- The inner text of a well-formed rule is read with the closing brace behind it, and closes every
brace that it opens. -/
theorem exists_inner_of_mem_segment {css : Text} {b : Block} (hb : b ∈ segment css)
    (hrule : b.passthrough = false) (hwell : b.malformed = false) :
    ∃ ls, b.body = '\x7b' :: (Lexeme.textOf ls ++ ['\x7d']) ∧
      Lexeme.IsReading (ls ++ [.plain '\x7d']) ∧ Nested 0 ls ∧ level ls = 0 := by
  obtain ⟨n, lead, core, rfl, -, hcore, hread, -⟩ := exists_piece_of_mem_segment hb
  cases core with
  | fragment => exact Bool.noConfusion hrule
  | rule header inner ends =>
    obtain ⟨-, hmalformed, hbody⟩ := views_ofPiece_rule n (lead ++ header) inner ends
    have hends : ends = true := by
      rw [Piece.behind, hmalformed] at hwell
      simpa using hwell
    subst hends
    have hwhole : Piece.Whole (.rule header inner true) := by
      rcases hcore with hcore | hcore
      · exact hcore
      · cases hcore
    cases hwhole with
    | rule _ _ hinner hlevel =>
      have hsplit : (Piece.rule header inner true).lexemes =
          (header ++ [.plain '\x7b']) ++ (inner ++ [.plain '\x7d']) := by
        simp [Piece.lexemes]
      rw [hsplit] at hread
      refine ⟨inner, ?_, hread.of_append_right, hinner, hlevel⟩
      rw [Piece.behind, hbody]
      simp [Piece.bodyOf, Lexeme.text]

/-- The inner text of a body in braces is what stands between them. -/
theorem inner_of_body {b : Block} {t : Text} (hbody : b.body = '\x7b' :: (t ++ ['\x7d']))
    (hwell : b.malformed = false) : b.inner = t := by
  have hlast : (t ++ ['\x7d']).getLast? = some '\x7d' := List.getLast?_concat
  rw [inner, hbody, List.head?_cons, if_pos rfl, List.tail_cons, if_pos ⟨hlast, hwell⟩,
    List.dropLast_concat]

/-- What is nested in a rule is what its inner text is cut into. -/
theorem segmentInner_of_body {b : Block} {t : Text} (hbody : b.body = '\x7b' :: (t ++ ['\x7d']))
    (hrule : b.passthrough = false) (hwell : b.malformed = false) :
    b.segmentInner = segment t := by
  have hopen : ¬ (b.passthrough = true ∨ b.body.head? ≠ some '\x7b') := by
    rw [hrule, hbody]
    simp
  rw [segmentInner, segmentInnerWith, if_neg hopen, inner_of_body hbody hwell]
  rfl

/-- What is nested in a well-formed rule is made of pieces that close what they open. -/
theorem exists_piece_of_mem_segmentInner {css : Text} {b i : Block} (hb : b ∈ segment css)
    (hrule : b.passthrough = false) (hwell : b.malformed = false) (hi : i ∈ b.segmentInner) :
    ∃ n lead core, i = ofPiece n (Piece.behind lead core) ∧ lead.all Lexeme.isBlank ∧
      (Piece.Whole core ∨ Piece.Unfinished core) ∧ Lexeme.IsReading core.lexemes ∧
        level core.lexemes = 0 := by
  obtain ⟨ls, hbody, hread, hnested, hlevel⟩ := exists_inner_of_mem_segment hb hrule hwell
  have hls : Lexeme.IsReading ls := hread.of_append_left
  have hlexemes : Text.lexemes (Lexeme.textOf ls) = ls := hls
  rw [segmentInner_of_body hbody hrule hwell, segment, hlexemes] at hi
  obtain ⟨p, hp, n, rfl⟩ := mem_ofPieces hi
  have hzero := (Piece.cut_ofLexemes ls).level_eq_zero hnested hlevel hp
  obtain ⟨lead, core, rfl, hlead, hcore, hpart⟩ := (Piece.cut_ofLexemes ls).mem hp
  rw [Piece.lexemes_behind, Lexeme.level_append, Piece.level_of_blanks hlead, Int.zero_add]
    at hzero
  exact ⟨n, lead, core, rfl, hlead, hcore, hls.of_part hpart, hzero⟩

/-- **Rules in rules are closed.**  What is nested in a well-formed rule is well formed. -/
theorem malformed_of_mem_segmentInner {css : Text} {b i : Block} (hb : b ∈ segment css)
    (hrule : b.passthrough = false) (hwell : b.malformed = false) (hi : i ∈ b.segmentInner) :
    i.malformed = false := by
  obtain ⟨n, lead, core, rfl, hlead, hcore, -, hlevel⟩ :=
    exists_piece_of_mem_segmentInner hb hrule hwell hi
  rcases hcore with hcore | hcore
  · exact malformed_of_whole hcore n lead
  · cases hcore with
    | statement => rfl
    | rule _ hheader hinner =>
      have hpos := Piece.level_pos_of_open hheader hinner
      omega

end Block

end CssTrim
