import CssTrim.Block.Nested
import CssTrim.Proofs.Text.Trim

/-!
# Reading lexemes piece by piece

`Text.lexemes` reads a text from its front, and a string, a comment or an escape
takes in what follows.  This module says when the lexemes of a part of a text
are the same as the lexemes of that part inside the text.

* `Lexeme.Reads l t` says that `l` is read in front of `t`.  The `reads_*_iff`
  lemmas spell it out for each kind of lexeme.
* `IsReading ls` says that `ls` is what reading its own text gives.  Every part
  of a reading is a reading.
* `IsReading.lexemes_append` is the locality of the scan: a part of a reading
  that something follows is read the same whatever follows it.  The one
  exception is an asterisk, which turns a slash in front of it into a comment.
* `IsReading.lexemes_trimEnd` says what becomes of a reading when its text is
  trimmed.  The last lexeme that is no blank may lose blanks of its own: the
  blank behind a backslash, the blanks at the end of a string or a comment that
  is not closed, or the line break that has ended a string.  `Lexeme.clip` is
  what is left of it.
-/

namespace CssTrim

namespace Text

/-! ## Reading one lexeme -/

theorem lexemes_nil : lexemes [] = [] := by
  rw [lexemes]

theorem lexemes_escape (c : Char) (t : Text) :
    lexemes ('\\' :: c :: t) = .escape c :: lexemes t := by
  rw [lexemes]

theorem lexemes_comment (t : Text) :
    lexemes ('/' :: '*' :: t) = .comment (spanComment t).1 :: lexemes (spanComment t).2 := by
  rw [lexemes]

/-- Where neither an escape nor a comment starts, a lexeme is a string or one character. -/
theorem lexemes_cons {c : Char} {t : Text} (hescape : c = '\\' → t = [])
    (hcomment : c = '/' → t.head? ≠ some '*') :
    lexemes (c :: t) =
      if isQuote c then .quoted c (spanQuoted c t).1 :: lexemes (spanQuoted c t).2
      else .plain c :: lexemes t := by
  rw [lexemes]
  · rintro d rest rfl rfl
    exact List.cons_ne_nil _ _ (hescape rfl)
  · rintro rest rfl rfl
    exact hcomment rfl rfl

/-! ## The end of a string and of a comment -/

/-- A string that ends before the end of the text ends there whatever follows. -/
theorem spanQuoted_append_of_ne_nil {quote : Char} {t : Text} (h : (spanQuoted quote t).2 ≠ [])
    (s : Text) :
    spanQuoted quote ((spanQuoted quote t).1 ++ s) = ((spanQuoted quote t).1, s) := by
  fun_induction spanQuoted quote t with
  | case1 => exact absurd rfl h
  | case2 c rest ih =>
    have hih := ih h
    simp only [Prod.map_fst, List.cons_append, spanQuoted]
    rw [hih]
    rfl
  | case3 c rest hescape hend =>
    have hc : c ≠ '\\' := by
      rintro rfl
      obtain ⟨d, more, rfl⟩ := List.exists_cons_of_ne_nil h
      exact hescape d more rfl rfl
    simp [spanQuoted, hc, hend]
  | case4 c rest hescape hend ih =>
    have hc : c ≠ '\\' := by
      rintro rfl
      cases rest with
      | nil => simp [spanQuoted] at h
      | cons d more => exact hescape d more rfl rfl
    have hih := ih h
    simp only [Prod.map_fst, List.cons_append]
    rw [spanQuoted, if_neg hend, hih]
    · rfl
    · rintro d more rfl
      exact absurd rfl hc

/-- The start of a string is read to its end. -/
theorem spanQuoted_of_prefix {quote : Char} {t s : Text} (h : s <+: (spanQuoted quote t).1) :
    spanQuoted quote s = (s, []) := by
  fun_induction spanQuoted quote t generalizing s with
  | case1 =>
    rw [List.prefix_nil.1 h, spanQuoted]
  | case2 c rest ih =>
    rcases List.prefix_cons_iff.1 h with rfl | ⟨s₁, rfl, h₁⟩
    · rw [spanQuoted]
    rcases List.prefix_cons_iff.1 h₁ with rfl | ⟨s₂, rfl, h₂⟩
    · simp [spanQuoted]
    · rw [spanQuoted, ih h₂]
      rfl
  | case3 c rest hescape hend =>
    rcases List.prefix_cons_iff.1 h with rfl | ⟨s₁, rfl, h₁⟩
    · rw [spanQuoted]
    · rw [List.prefix_nil.1 h₁]
      simp [spanQuoted, hend]
  | case4 c rest hescape hend ih =>
    rcases List.prefix_cons_iff.1 h with rfl | ⟨s₁, rfl, h₁⟩
    · rw [spanQuoted]
    · rw [spanQuoted, if_neg hend, ih h₁]
      · rfl
      · rintro d more rfl rfl
        -- the string goes on behind the backslash, so `rest` does too
        have hrest : rest ≠ [] := by
          rintro rfl
          exact List.cons_ne_nil d more (List.prefix_nil.1 h₁)
        obtain ⟨e, rest, rfl⟩ := List.exists_cons_of_ne_nil hrest
        exact hescape e rest rfl rfl

theorem head?_spanComment (t : Text) : (spanComment t).1.head? = t.head? := by
  fun_cases spanComment t <;> rfl

/-- A comment that ends before the end of the text ends there whatever follows. -/
theorem spanComment_append_of_ne_nil {t : Text} (h : (spanComment t).2 ≠ []) (s : Text) :
    spanComment ((spanComment t).1 ++ s) = ((spanComment t).1, s) := by
  fun_induction spanComment t with
  | case1 rest => rfl
  | case2 c rest hopen ih =>
    have hih := ih h
    simp only [Prod.map_fst, List.cons_append]
    rw [spanComment, hih]
    · rfl
    · rintro more rfl hslash
      -- the slash is the first character of the comment, hence of `rest`
      have hhead := head?_spanComment rest
      cases hfirst : (spanComment rest).1 with
      | nil =>
        rw [hfirst, List.head?_nil, eq_comm, List.head?_eq_none_iff] at hhead
        rw [hhead] at h
        exact h rfl
      | cons d body =>
        rw [hfirst, List.cons_append, List.cons.injEq] at hslash
        rw [hfirst, List.head?_cons, hslash.1, eq_comm, List.head?_eq_some_iff] at hhead
        obtain ⟨after, rfl⟩ := hhead
        exact hopen after rfl rfl
  | case3 => exact absurd rfl h

/-- A comment that ends before the end of the text ends with a slash. -/
theorem exists_spanComment_eq_concat {t : Text} (h : (spanComment t).2 ≠ []) :
    ∃ body, (spanComment t).1 = body ++ ['/'] := by
  fun_induction spanComment t with
  | case1 rest => exact ⟨['*'], rfl⟩
  | case2 c rest hopen ih =>
    obtain ⟨body, hbody⟩ := ih h
    refine ⟨c :: body, ?_⟩
    rw [Prod.map_fst, hbody]
    rfl
  | case3 => exact absurd rfl h

/-- The start of a comment is read to its end. -/
theorem spanComment_of_prefix {t s : Text} (h : s <+: (spanComment t).1) :
    spanComment s = (s, []) := by
  fun_induction spanComment t generalizing s with
  | case1 rest =>
    rcases List.prefix_cons_iff.1 h with rfl | ⟨s₁, rfl, h₁⟩
    · rfl
    rcases List.prefix_cons_iff.1 h₁ with rfl | ⟨s₂, rfl, h₂⟩
    · rfl
    · rw [List.prefix_nil.1 h₂]
      rfl
  | case2 c rest hopen ih =>
    rcases List.prefix_cons_iff.1 h with rfl | ⟨s₁, rfl, h₁⟩
    · rfl
    · rw [spanComment, ih h₁]
      · rfl
      · rintro more rfl rfl
        have hrest : ('/' :: more) <+: rest :=
          h₁.trans ⟨_, spanComment_append rest⟩
        obtain ⟨after, rfl⟩ := hrest
        exact hopen (more ++ after) rfl rfl
  | case3 =>
    rw [List.prefix_nil.1 h]
    rfl

end Text

namespace Lexeme

/-! ## Lexemes in front of a text -/

/-- Whether a lexeme is read as it stands in front of a text. -/
def Reads (l : Lexeme) (t : Text) : Prop :=
  Text.lexemes (l.text ++ t) = l :: Text.lexemes t

/-- A plain character does not open a string, a backslash is the last character of the text, and
an asterisk does not follow a slash. -/
theorem reads_plain_iff {c : Char} {t : Text} :
    (plain c).Reads t ↔
      Text.isQuote c = false ∧ (c = '\\' → t = []) ∧ (c = '/' → t.head? ≠ some '*') := by
  constructor
  · intro h
    have hescape : c = '\\' → t = [] := by
      rintro rfl
      cases t with
      | nil => rfl
      | cons d rest =>
        have hne := h.symm.trans (Text.lexemes_escape d rest)
        simp at hne
    have hcomment : c = '/' → t.head? ≠ some '*' := by
      rintro rfl hhead
      obtain ⟨rest, rfl⟩ := List.head?_eq_some_iff.1 hhead
      have hne := h.symm.trans (Text.lexemes_comment rest)
      simp at hne
    refine ⟨?_, hescape, hcomment⟩
    rw [Reads, text, List.singleton_append, Text.lexemes_cons hescape hcomment] at h
    cases hq : Text.isQuote c with
    | false => rfl
    | true => simp [hq] at h
  · rintro ⟨hq, hescape, hcomment⟩
    rw [Reads, text, List.singleton_append, Text.lexemes_cons hescape hcomment, hq]
    rfl

theorem reads_escape (c : Char) (t : Text) : (escape c).Reads t :=
  Text.lexemes_escape c t

theorem reads_quoted_iff {quote : Char} {r t : Text} :
    (quoted quote r).Reads t ↔
      Text.isQuote quote ∧ Text.spanQuoted quote (r ++ t) = (r, t) := by
  have hread : Text.isQuote quote →
      Text.lexemes (quote :: (r ++ t)) =
        .quoted quote (Text.spanQuoted quote (r ++ t)).1 ::
          Text.lexemes (Text.spanQuoted quote (r ++ t)).2 := by
    intro hq
    rw [Text.lexemes_cons, if_pos hq]
    · rintro rfl
      exact absurd hq (by decide)
    · rintro rfl
      exact absurd hq (by decide)
  constructor
  · intro h
    rw [Reads, text, List.cons_append] at h
    have hq : Text.isQuote quote := by
      by_contra hq
      rw [Text.lexemes.eq_def] at h
      split at h <;> simp_all
    rw [hread hq, List.cons.injEq, quoted.injEq] at h
    refine ⟨hq, Prod.ext h.1.2 ?_⟩
    have happ := Text.spanQuoted_append quote (r ++ t)
    rw [h.1.2] at happ
    exact List.append_cancel_left happ
  · rintro ⟨hq, hspan⟩
    rw [Reads, text, List.cons_append, hread hq, hspan]

theorem reads_comment_iff {r t : Text} :
    (comment r).Reads t ↔ Text.spanComment (r ++ t) = (r, t) := by
  rw [Reads, text, List.cons_append, List.cons_append, Text.lexemes_comment]
  constructor
  · intro h
    rw [List.cons.injEq, comment.injEq] at h
    refine Prod.ext h.1 ?_
    have happ := Text.spanComment_append (r ++ t)
    rw [h.1] at happ
    exact List.append_cancel_left happ
  · intro h
    rw [h]

/-- A lexeme that something follows is read the same in front of other texts, but for a slash in
front of an asterisk. -/
theorem Reads.of_slash {l : Lexeme} {t s : Text} (h : l.Reads t) (hne : t ≠ [])
    (hslash : l = plain '/' → s.head? ≠ some '*') : l.Reads s := by
  cases l with
  | plain c =>
    obtain ⟨hq, hescape, -⟩ := reads_plain_iff.1 h
    exact reads_plain_iff.2
      ⟨hq, fun hc => absurd (hescape hc) hne, fun hc => hslash (congrArg plain hc)⟩
  | escape c => exact reads_escape c s
  | quoted quote r =>
    obtain ⟨hq, hspan⟩ := reads_quoted_iff.1 h
    have hend : (Text.spanQuoted quote (r ++ t)).2 ≠ [] := by
      rw [hspan]
      exact hne
    have hlocal := Text.spanQuoted_append_of_ne_nil hend s
    rw [hspan] at hlocal
    exact reads_quoted_iff.2 ⟨hq, hlocal⟩
  | comment r =>
    have hspan := reads_comment_iff.1 h
    have hend : (Text.spanComment (r ++ t)).2 ≠ [] := by
      rw [hspan]
      exact hne
    have hlocal := Text.spanComment_append_of_ne_nil hend s
    rw [hspan] at hlocal
    exact reads_comment_iff.2 hlocal

/-- A lexeme that something follows is read the same in front of a text that starts alike. -/
theorem Reads.of_ne_nil {l : Lexeme} {t s : Text} (h : l.Reads t) (hne : t ≠ [])
    (hstar : s.head? = some '*' → t.head? = some '*') : l.Reads s := by
  refine h.of_slash hne ?_
  rintro rfl hs
  exact (reads_plain_iff.1 h).2.2 rfl (hstar hs)

/-! ## The last lexeme of a trimmed text -/

/-- What is left of a lexeme behind which a text is trimmed. -/
def clip : Lexeme → Lexeme
  | plain c => plain c
  | escape c => if Text.isBlank c then plain '\\' else escape c
  | quoted quote rest => quoted quote (Text.trimEnd rest)
  | comment rest => comment (Text.trimEnd rest)

/-- What is left of a lexeme is one lexeme again. -/
theorem Reads.clip {l : Lexeme} {t : Text} (h : l.Reads t) : l.clip.Reads [] := by
  cases l with
  | plain c =>
    obtain ⟨hq, _, _⟩ := reads_plain_iff.1 h
    exact reads_plain_iff.2 ⟨hq, fun _ => rfl, fun _ => by simp⟩
  | escape c =>
    rw [Lexeme.clip]
    split
    · exact reads_plain_iff.2 ⟨by decide, fun _ => rfl, fun _ => by simp⟩
    · exact reads_escape c []
  | quoted quote r =>
    obtain ⟨hq, hspan⟩ := reads_quoted_iff.1 h
    refine reads_quoted_iff.2 ⟨hq, ?_⟩
    rw [List.append_nil]
    refine Text.spanQuoted_of_prefix (t := r ++ t) ?_
    rw [hspan]
    exact Text.trimEnd_prefix r
  | comment r =>
    have hspan := reads_comment_iff.1 h
    refine reads_comment_iff.2 ?_
    rw [List.append_nil]
    refine Text.spanComment_of_prefix (t := r ++ t) ?_
    rw [hspan]
    exact Text.trimEnd_prefix r

/-- A lexeme that is no blank starts with a character that is no blank. -/
theorem Reads.exists_text_eq_cons {l : Lexeme} {t : Text} (h : l.Reads t)
    (hb : l.isBlank = false) : ∃ c r, l.text = c :: r ∧ Text.isBlank c = false := by
  cases l with
  | plain c => exact ⟨c, [], rfl, hb⟩
  | escape c => exact ⟨'\\', [c], rfl, by decide⟩
  | quoted quote r =>
    refine ⟨quote, r, rfl, ?_⟩
    have hopen := (reads_quoted_iff.1 h).1
    rw [Text.isQuote, Bool.or_eq_true, beq_iff_eq, beq_iff_eq] at hopen
    rcases hopen with rfl | rfl <;> decide
  | comment r => exact ⟨'/', '*' :: r, rfl, by decide⟩

theorem Reads.isBlankText_text {l : Lexeme} {t : Text} (h : l.Reads t) (hb : l.isBlank = false) :
    Text.isBlankText l.text = false := by
  obtain ⟨c, r, hl, hc⟩ := h.exists_text_eq_cons hb
  rw [hl, Text.isBlankText_cons, hc]
  rfl

theorem Reads.trimEnd_text {l : Lexeme} {t : Text} (h : l.Reads t) (hb : l.isBlank = false) :
    Text.trimEnd l.text = l.clip.text := by
  cases l with
  | plain c => exact Text.trimEnd_concat [] hb
  | escape c =>
    have hslash : Text.isBlank '\\' = false := by decide
    rw [text, Text.trimEnd_cons hslash, Lexeme.clip, Text.trimEnd_eq_rdropWhile,
      List.rdropWhile_singleton]
    split <;> rfl
  | quoted quote r =>
    obtain ⟨c, rest, hl, hc⟩ := h.exists_text_eq_cons hb
    obtain ⟨rfl, rfl⟩ := List.cons.inj hl
    rw [text, Text.trimEnd_cons hc]
    rfl
  | comment r =>
    rw [text, Text.trimEnd_cons (by decide), Text.trimEnd_cons (by decide)]
    rfl

/-- A comment that something follows is closed, and has no blanks at its end to lose. -/
theorem Reads.clip_comment {r t : Text} (h : (comment r).Reads t) (hne : t ≠ []) :
    (comment r).clip = comment r := by
  have hspan := reads_comment_iff.1 h
  have hend : (Text.spanComment (r ++ t)).2 ≠ [] := by
    rw [hspan]
    exact hne
  obtain ⟨body, hbody⟩ := Text.exists_spanComment_eq_concat hend
  rw [hspan] at hbody
  have hr : r = body ++ ['/'] := hbody
  rw [Lexeme.clip, hr, Text.trimEnd_concat body (by decide)]

theorem head?_text_clip (l : Lexeme) : l.clip.text.head? = l.text.head? := by
  cases l with
  | escape c =>
    rw [clip]
    split <;> rfl
  | plain | quoted | comment => rfl

theorem text_ne_nil (l : Lexeme) : l.text ≠ [] := by
  cases l <;> exact List.cons_ne_nil _ _

theorem textOf_ne_nil {ls : List Lexeme} (h : ls ≠ []) : textOf ls ≠ [] := by
  obtain ⟨l, ls, rfl⟩ := List.exists_cons_of_ne_nil h
  intro hnil
  rw [textOf_cons, List.append_eq_nil_iff] at hnil
  exact text_ne_nil l hnil.1

/-! ## Readings -/

/-- Whether a sequence of lexemes is what reading its own text gives. -/
def IsReading (ls : List Lexeme) : Prop := Text.lexemes (textOf ls) = ls

theorem isReading_lexemes (t : Text) : IsReading (Text.lexemes t) := by
  rw [IsReading, Text.textOf_lexemes]

theorem isReading_cons_iff {l : Lexeme} {ls : List Lexeme} :
    IsReading (l :: ls) ↔ l.Reads (textOf ls) ∧ IsReading ls := by
  constructor
  · intro h
    rw [IsReading, textOf_cons] at h
    have htail : ∃ rest, ls = Text.lexemes rest := by
      generalize l.text ++ textOf ls = t at h
      rw [Text.lexemes.eq_def] at h
      split at h
      · exact absurd h (by simp)
      · exact ⟨_, (List.cons.inj h).2.symm⟩
      · exact ⟨_, (List.cons.inj h).2.symm⟩
      · split at h
        · exact ⟨_, (List.cons.inj h).2.symm⟩
        · exact ⟨_, (List.cons.inj h).2.symm⟩
    obtain ⟨rest, rfl⟩ := htail
    refine ⟨?_, isReading_lexemes rest⟩
    rw [Reads, h, Text.textOf_lexemes]
  · rintro ⟨hl, hls⟩
    rw [IsReading, textOf_cons, hl, hls]

/-- The end of a reading is a reading. -/
theorem IsReading.of_append_right {xs ys : List Lexeme} (h : IsReading (xs ++ ys)) :
    IsReading ys := by
  induction xs with
  | nil => exact h
  | cons x xs ih => exact ih (isReading_cons_iff.1 h).2

/-- What follows a lexeme does not count for how it starts. -/
theorem head?_text_append (l : Lexeme) (t : Text) : (l.text ++ t).head? = l.text.head? := by
  obtain ⟨c, rest, hl⟩ := List.exists_cons_of_ne_nil (text_ne_nil l)
  rw [hl]
  rfl

/-- **The scan is local.**  A part of a reading that something follows is read the same whatever
follows it. -/
theorem IsReading.lexemes_append {xs ys : List Lexeme} (h : IsReading (xs ++ ys)) (hne : ys ≠ [])
    {s : Text} (hstar : s.head? = some '*' → (textOf ys).head? = some '*') :
    Text.lexemes (textOf xs ++ s) = xs ++ Text.lexemes s := by
  induction xs with
  | nil => rfl
  | cons x xs ih =>
    obtain ⟨hx, hxs⟩ := isReading_cons_iff.1 h
    have hnext : textOf (xs ++ ys) ≠ [] :=
      textOf_ne_nil (List.append_ne_nil_of_right_ne_nil xs hne)
    have hhead : (textOf xs ++ s).head? = some '*' → (textOf (xs ++ ys)).head? = some '*' := by
      cases xs with
      | nil => exact hstar
      | cons m ms =>
        intro h
        rw [textOf_cons, List.append_assoc, head?_text_append] at h
        rw [List.cons_append, textOf_cons, head?_text_append]
        exact h
    rw [textOf_cons, List.append_assoc, hx.of_ne_nil hnext hhead, ih hxs, List.cons_append]

/-- The start of a reading is a reading. -/
theorem IsReading.of_append_left {xs ys : List Lexeme} (h : IsReading (xs ++ ys)) :
    IsReading xs := by
  by_cases hne : ys = []
  · rw [hne, List.append_nil] at h
    exact h
  · have hread := h.lexemes_append hne (s := []) (by simp)
    rw [List.append_nil, Text.lexemes_nil, List.append_nil] at hread
    exact hread

/-- A part of a reading is a reading. -/
theorem IsReading.of_part {xs ys : List Lexeme} (h : IsReading ys) (hxs : xs <:+: ys) :
    IsReading xs := by
  obtain ⟨before, after, rfl⟩ := hxs
  exact h.of_append_left.of_append_right

theorem isBlankText_textOf {ws : List Lexeme} (h : ws.all isBlank) :
    Text.isBlankText (textOf ws) := by
  induction ws with
  | nil => rfl
  | cons w ws ih =>
    rw [List.all_cons, Bool.and_eq_true] at h
    cases w with
    | plain c =>
      rw [textOf_cons, Text.isBlankText_append, ih h.2, Bool.and_true]
      exact (Bool.and_true _).trans h.1
    | escape | quoted | comment => exact absurd h.1 Bool.false_ne_true

/-- A reading that starts with something else than a blank has no blank in front to lose. -/
theorem IsReading.trim_textOf_cons {l : Lexeme} {ls : List Lexeme} (h : IsReading (l :: ls))
    (hl : l.isBlank = false) : Text.trim (textOf (l :: ls)) = Text.trimEnd (textOf (l :: ls)) := by
  obtain ⟨c, r, htext, hc⟩ := (isReading_cons_iff.1 h).1.exists_text_eq_cons hl
  rw [textOf_cons, htext, List.cons_append, Text.trim_cons hc]

/-- **Trimming and reading.**  The text of a reading, trimmed at its end, is read as the lexemes
up to the last one that is no blank, of which `clip` is left. -/
theorem IsReading.lexemes_trimEnd {xs ws : List Lexeme} {l : Lexeme}
    (h : IsReading (xs ++ l :: ws)) (hl : l.isBlank = false) (hws : ws.all isBlank) :
    Text.lexemes (Text.trimEnd (textOf (xs ++ l :: ws))) = xs ++ [l.clip] := by
  have hreads : l.Reads (textOf ws) := (isReading_cons_iff.1 h.of_append_right).1
  have hclip : Text.trimEnd l.text = l.clip.text := hreads.trimEnd_text hl
  have hsolid : Text.isBlankText l.text = false := hreads.isBlankText_text hl
  have htrim : Text.trimEnd (textOf (xs ++ l :: ws)) = textOf xs ++ l.clip.text := by
    rw [textOf_append, textOf_cons, ← List.append_assoc,
      Text.trimEnd_append_of_isBlankText _ (isBlankText_textOf hws),
      Text.trimEnd_append_of_not_isBlankText _ hsolid, hclip]
  have hhead : l.clip.text.head? = (textOf (l :: ws)).head? := by
    rw [head?_text_clip, textOf_cons, head?_text_append]
  have hlast : Text.lexemes l.clip.text = [l.clip] := by
    have hread := hreads.clip
    rw [Reads, List.append_nil, Text.lexemes_nil] at hread
    exact hread
  rw [htrim, h.lexemes_append (List.cons_ne_nil l ws) (by rw [hhead]; exact id), hlast]

end Lexeme

end CssTrim
