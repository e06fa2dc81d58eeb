import CssTrim.Proofs.Block.Settled
import Mathlib.Data.List.Flatten

/-!
# Texts without their comments

`Text.stripComments` takes the comments out of a text.  This module says when the
lexemes of what is left are the other lexemes of the text, and what trimming has
to do with it.

* `Lexeme.bare` are the lexemes that are no comments, and `textOf_bare` the text
  that they leave.
* Reading again.  Where a comment has stood between a slash and an asterisk, the
  two make up a new comment.  `lexemes_stripComments` says that nothing else can
  happen: if what is left has no comments, it is read as the other lexemes.
* `trim_stripComments_trim`: trimming before the comments are taken out makes no
  difference to a text that is trimmed behind it.
* Texts that have no comments.  Such a text loses nothing but blanks with its
  comments, so that blanks around it do not count.
-/

namespace CssTrim

namespace Lexeme

/-! ## Lexemes that are no comments -/

/-- The lexemes that are no comments. -/
def bare (ls : List Lexeme) : List Lexeme := ls.filter (!·.isComment)

@[simp] theorem bare_nil : bare [] = [] := rfl

@[simp] theorem bare_append (xs ys : List Lexeme) : bare (xs ++ ys) = bare xs ++ bare ys :=
  List.filter_append xs ys

theorem bare_cons_of_isComment {l : Lexeme} (hl : l.isComment = true) (ls : List Lexeme) :
    bare (l :: ls) = bare ls := by
  rw [bare, List.filter_cons, hl]
  rfl

theorem bare_cons {l : Lexeme} (hl : l.isComment = false) (ls : List Lexeme) :
    bare (l :: ls) = l :: bare ls := by
  rw [bare, List.filter_cons, hl]
  rfl

theorem bare_bare (ls : List Lexeme) : bare (bare ls) = bare ls := by
  simp [bare]

theorem isComment_of_isBlank {l : Lexeme} (hl : l.isBlank) : l.isComment = false := by
  cases l with
  | comment => exact absurd hl Bool.false_ne_true
  | plain | escape | quoted => rfl

/-- There are no comments among blanks. -/
theorem bare_of_blanks {ls : List Lexeme} (h : ls.all isBlank) : bare ls = ls := by
  rw [bare, List.filter_eq_self]
  intro l hl
  rw [isComment_of_isBlank (List.all_eq_true.1 h l hl)]
  rfl

theorem textOf_bare (t : Text) : textOf (bare (Text.lexemes t)) = Text.stripComments t := rfl

/-- What is left of a reading is its text without comments. -/
theorem IsReading.stripComments_textOf {ls : List Lexeme} (h : IsReading ls) :
    Text.stripComments (textOf ls) = textOf (bare ls) := by
  rw [← textOf_bare, h]

/-! ## Reading again -/

/-- Lexemes that are taken out leave a shorter text. -/
theorem length_textOf_le_of_sublist {xs ys : List Lexeme} (h : xs.Sublist ys) :
    (textOf xs).length ≤ (textOf ys).length :=
  (h.flatMap text).length_le

/-- A selection of lexemes with the whole text is all of them. -/
theorem eq_of_sublist_of_textOf_eq {xs ys : List Lexeme} (h : xs.Sublist ys)
    (htext : textOf xs = textOf ys) : xs = ys := by
  induction h with
  | slnil => rfl
  | @cons xs ys y h _ =>
    have hle := length_textOf_le_of_sublist h
    have hpos := List.length_pos_of_ne_nil (text_ne_nil y)
    rw [htext, textOf_cons, List.length_append] at hle
    omega
  | @cons_cons xs ys y _ ih =>
    rw [textOf_cons, textOf_cons] at htext
    rw [ih (List.append_cancel_left htext)]

/-- A text that loses nothing with its comments has none. -/
theorem isComment_of_mem_lexemes {t : Text} (h : Text.stripComments t = t) {l : Lexeme}
    (hl : l ∈ Text.lexemes t) : l.isComment = false := by
  have htext : textOf (bare (Text.lexemes t)) = textOf (Text.lexemes t) := by
    rw [textOf_bare, h, Text.textOf_lexemes]
  have hbare : bare (Text.lexemes t) = Text.lexemes t :=
    eq_of_sublist_of_textOf_eq List.filter_sublist htext
  rw [← hbare, bare, List.mem_filter] at hl
  simpa using hl.2

/-- Comments that leave nothing but blanks behind are none. -/
theorem bare_eq_self_of_withoutBlanks {ls : List Lexeme}
    (h : Text.withoutBlanks (textOf (bare ls)) = Text.withoutBlanks (textOf ls)) : bare ls = ls := by
  induction ls with
  | nil => rfl
  | cons l ls ih =>
    cases hcomment : l.isComment with
    | false =>
      rw [bare_cons hcomment, textOf_cons, textOf_cons, Text.withoutBlanks_append,
        Text.withoutBlanks_append] at h
      rw [bare_cons hcomment, ih (List.append_cancel_left h)]
    | true =>
      have hsub : (textOf (bare ls)).Sublist (textOf ls) := List.filter_sublist.flatMap text
      have hle : (Text.withoutBlanks (textOf (bare ls))).length ≤
          (Text.withoutBlanks (textOf ls)).length := (hsub.filter _).length_le
      have hpos : 0 < (Text.withoutBlanks l.text).length := by
        cases l with
        | comment r =>
          have hstroke : Text.isBlank '/' = false := by decide
          simp [Text.withoutBlanks, text, hstroke]
        | plain | escape | quoted => exact Bool.noConfusion hcomment
      rw [bare_cons_of_isComment hcomment, textOf_cons, Text.withoutBlanks_append] at h
      have hlength := congrArg List.length h
      rw [List.length_append] at hlength
      omega

/-- The lexemes of a reading that are no comments are a reading, if their text has no comments.  The
induction is on the reading: only a slash could be read in another way in front of what is left, as
the start of a comment. -/
theorem IsReading.bare {ls : List Lexeme} (h : IsReading ls)
    (hnone : ∀ l ∈ Text.lexemes (textOf (Lexeme.bare ls)), l.isComment = false) :
    IsReading (Lexeme.bare ls) := by
  induction ls with
  | nil => exact h
  | cons l ls ih =>
    obtain ⟨hl, hls⟩ := isReading_cons_iff.1 h
    cases hcomment : l.isComment with
    | true =>
      rw [bare_cons_of_isComment hcomment] at hnone ⊢
      exact ih hls hnone
    | false =>
      rw [bare_cons hcomment] at hnone ⊢
      have hslash : l = plain '/' → (textOf (Lexeme.bare ls)).head? ≠ some '*' := by
        rintro rfl hstar
        obtain ⟨rest, hrest⟩ := List.head?_eq_some_iff.1 hstar
        rw [textOf_cons, hrest, text, List.singleton_append, Text.lexemes_comment] at hnone
        exact Bool.noConfusion (hnone _ List.mem_cons_self)
      have hreads : l.Reads (textOf (Lexeme.bare ls)) := by
        by_cases hend : textOf ls = []
        · have hnil : ls = [] := by
            by_contra hne
            exact textOf_ne_nil hne hend
          rw [hnil] at hl ⊢
          exact hl
        · exact Reads.of_slash hl hend hslash
      rw [textOf_cons, hreads] at hnone
      exact isReading_cons_iff.2 ⟨hreads, ih hls fun m hm => hnone m (List.mem_cons_of_mem l hm)⟩

end Lexeme

namespace Text

/-- **Taking out the comments.**  If what is left of a text has no comments, it is read as the
lexemes of the text that are no comments. -/
theorem lexemes_stripComments {t : Text} (h : stripComments (stripComments t) = stripComments t) :
    lexemes (stripComments t) = Lexeme.bare (lexemes t) :=
  (Lexeme.isReading_lexemes t).bare fun _ hl => Lexeme.isComment_of_mem_lexemes h hl

/-! ## Trimming -/

theorem stripComments_append_of_isBlankText {w : Text} (hw : isBlankText w) (t : Text) :
    stripComments (w ++ t) = w ++ stripComments t := by
  induction w with
  | nil => rfl
  | cons c w ih =>
    rw [isBlankText_cons, Bool.and_eq_true] at hw
    have hplain : (Lexeme.plain c).isComment = false := rfl
    rw [List.cons_append, ← Lexeme.textOf_bare, Piece.lexemes_cons_blank hw.1,
      Lexeme.bare_cons hplain, Lexeme.textOf_cons, Lexeme.textOf_bare, ih hw.2]
    rfl

theorem trim_trimEnd (t : Text) : trim (trimEnd t) = trim t := by
  obtain ⟨w, hw, ht⟩ := exists_trimEnd_eq_append_trim t
  rw [ht, trim_append_of_isBlankText hw, trim_trim]

/-- What is left of a lexeme at the end of a text is what trimming leaves. -/
theorem trim_stripComments_trimEnd (t : Text) :
    trim (stripComments (trimEnd t)) = trim (stripComments t) := by
  have hread := Lexeme.isReading_lexemes t
  cases hsolid : (lexemes t).all Lexeme.isBlank with
  | true =>
    have hblank := Lexeme.isBlankText_textOf hsolid
    rw [textOf_lexemes] at hblank
    rw [trimEnd_eq_nil_iff.2 hblank, trim_eq_nil_iff.2 (Block.isBlankText_stripComments hblank),
      ← Lexeme.textOf_bare, lexemes_nil]
    rfl
  | false =>
    obtain ⟨xs, l, ws, hsplit, hl, hws⟩ := Lexeme.exists_last_not_blank hsolid
    rw [hsplit] at hread
    have hreads := (Lexeme.isReading_cons_iff.1 hread.of_append_right).1
    have hend := hread.lexemes_trimEnd hl hws
    have ht : Lexeme.textOf (xs ++ l :: ws) = t := by rw [← hsplit, textOf_lexemes]
    have hblank := Lexeme.isBlankText_textOf hws
    rw [ht] at hend
    rw [← Lexeme.textOf_bare, ← Lexeme.textOf_bare, hend, hsplit, Lexeme.bare_append,
      Lexeme.bare_append]
    cases hcomment : l.isComment with
    | true =>
      have hclip : l.clip.isComment = true := (Lexeme.isComment_clip l).trans hcomment
      rw [Lexeme.bare_cons_of_isComment hclip, Lexeme.bare_cons_of_isComment hcomment,
        Lexeme.bare_of_blanks hws, Lexeme.textOf_append, Lexeme.textOf_append,
        trim_append_right_of_isBlankText _ hblank]
      simp
    | false =>
      have hclip : l.clip.isComment = false := (Lexeme.isComment_clip l).trans hcomment
      have hlast : trimEnd (Lexeme.textOf (Lexeme.bare xs) ++ (l.text ++ Lexeme.textOf ws)) =
          Lexeme.textOf (Lexeme.bare xs) ++ l.clip.text := by
        rw [← List.append_assoc, trimEnd_append_of_isBlankText _ hblank,
          trimEnd_append_of_not_isBlankText _ (hreads.isBlankText_text hl),
          hreads.trimEnd_text hl]
      rw [Lexeme.bare_cons hclip, Lexeme.bare_cons hcomment, Lexeme.bare_of_blanks hws,
        Lexeme.bare_nil, Lexeme.textOf_append, Lexeme.textOf_append, Lexeme.textOf_cons,
        Lexeme.textOf_cons, Lexeme.textOf_nil, List.append_nil, ← hlast, trim_trimEnd]

/-- **Trimming before the comments are taken out makes no difference**, if what is left is
trimmed. -/
theorem trim_stripComments_trim (t : Text) :
    trim (stripComments (trim t)) = trim (stripComments t) := by
  obtain ⟨w, hw, ht⟩ := trimStart_append t
  conv_rhs => rw [ht, stripComments_append_of_isBlankText hw, trim_append_of_isBlankText hw]
  exact trim_stripComments_trimEnd (trimStart t)

/-! ## Texts that have no comments -/

theorem stripComments_eq_self_iff {t : Text} :
    stripComments t = t ↔ ∀ l ∈ lexemes t, l.isComment = false := by
  refine ⟨fun h l hl => Lexeme.isComment_of_mem_lexemes h hl, fun h => ?_⟩
  have hbare : Lexeme.bare (lexemes t) = lexemes t := by
    rw [Lexeme.bare, List.filter_eq_self]
    intro l hl
    rw [h l hl]
    rfl
  rw [← Lexeme.textOf_bare, hbare, textOf_lexemes]

/-- A text that loses nothing but blanks with its comments has none. -/
theorem stripComments_eq_self_of_withoutBlanks {t : Text}
    (h : withoutBlanks (stripComments t) = withoutBlanks t) : stripComments t = t := by
  have htext : withoutBlanks (Lexeme.textOf (Lexeme.bare (lexemes t))) =
      withoutBlanks (Lexeme.textOf (lexemes t)) := by rwa [Lexeme.textOf_bare, textOf_lexemes]
  rw [← Lexeme.textOf_bare, Lexeme.bare_eq_self_of_withoutBlanks htext, textOf_lexemes]

/-- Blanks around a text make up no comment. -/
theorem stripComments_eq_self_of_trim {t : Text} (h : stripComments (trim t) = trim t) :
    stripComments t = t := by
  apply stripComments_eq_self_of_withoutBlanks
  rw [← withoutBlanks_trim, ← trim_stripComments_trim, h, trim_trim, withoutBlanks_trim]

/-- The front of a text without comments has none. -/
theorem stripComments_eq_self_of_append {s t : Text} (h : stripComments (s ++ t) = s ++ t) :
    stripComments s = s := by
  rw [stripComments_eq_self_iff] at h ⊢
  intro l hl
  cases l with
  | plain | escape | quoted => rfl
  | comment r =>
    obtain ⟨xs, ys, hsplit⟩ := List.append_of_mem hl
    have hread := Lexeme.isReading_lexemes s
    rw [hsplit] at hread
    have hs : s = Lexeme.textOf xs ++ '/' :: '*' :: (r ++ Lexeme.textOf ys) := by
      rw [← textOf_lexemes s, hsplit, Lexeme.textOf_append, Lexeme.textOf_cons]
      rfl
    have hlexemes := hread.lexemes_append (List.cons_ne_nil _ _)
      (s := '/' :: '*' :: (r ++ Lexeme.textOf ys ++ t)) (fun hstar => by simp at hstar)
    rw [lexemes_comment] at hlexemes
    have hmem : .comment (spanComment (r ++ Lexeme.textOf ys ++ t)).1 ∈ lexemes (s ++ t) := by
      have happ : s ++ t = Lexeme.textOf xs ++ '/' :: '*' :: (r ++ Lexeme.textOf ys ++ t) := by
        rw [hs]
        simp
      rw [happ, hlexemes]
      simp
    exact absurd (h _ hmem) Bool.noConfusion

end Text

end CssTrim
