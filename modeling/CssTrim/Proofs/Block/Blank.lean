import CssTrim.Proofs.Block.Comments

/-!
# Trimmed texts with a blank behind them

A text that is trimmed and has a blank behind it again may be read in another way
than before.  A string that a line break has ended, and a backslash that has taken a
blank, have lost what they ended with, and take it from what now follows.  There
are four groups.

* Strings.  `Text.Ending` says what becomes of a string that ends with its text,
  when something is written behind it.
* What is kept.  The last lexeme changes only if it is `Lexeme.isMute`, that is,
  none of the signs that the cut looks for, and it stays mute.  So the braces and
  the ends of headers are the same: `Lexeme.Keeps`.
* What is read.  `Lexeme.IsReading.exists_lexemes_trim_blank` says what is read of
  the text, and `Text.IsRest` what is left of the blank and of what follows it.
* What is read on, if one character or a second line break follows the blank.
-/

namespace CssTrim

namespace Text

/-! ## Strings -/

/-- How a string that ends with its text is read in front of another text.  It is closed and stays as
it is, or it goes on, or it goes on behind the first character, which the backslash at its end
takes. -/
def Ending (quote : Char) (r : Text) : Prop :=
  (∀ u, spanQuoted quote (r ++ u) = (r, u)) ∨
    (∀ u, spanQuoted quote (r ++ u) = (spanQuoted quote u).map (r ++ ·) id) ∨
      ∀ c u, spanQuoted quote (r ++ c :: u) = (spanQuoted quote u).map (r ++ c :: ·) id

/-- What a string goes on behind does not show at its end. -/
theorem Ending.append {quote : Char} {front r : Text}
    (hfront : ∀ u, spanQuoted quote (front ++ u) = (spanQuoted quote u).map (front ++ ·) id)
    (h : Ending quote r) : Ending quote (front ++ r) := by
  rcases h with hclosed | hopen | hslash
  · refine .inl fun u => ?_
    rw [List.append_assoc, hfront, hclosed]
    rfl
  · refine .inr (.inl fun u => ?_)
    rw [List.append_assoc, hfront, hopen, Prod.map_map]
    simp only [List.append_assoc]
    rfl
  · refine .inr (.inr fun c u => ?_)
    rw [List.append_assoc, hfront, hslash, Prod.map_map]
    simp only [List.append_assoc]
    rfl

theorem eq_of_map_append {front rest : Text} {p : Text × Text}
    (h : p.map (front ++ ·) id = (front ++ rest, [])) : p = (rest, []) := by
  obtain ⟨htaken, hleft⟩ := Prod.mk.inj h
  exact Prod.ext (List.append_cancel_left htaken) hleft

/-- A string that ends with its text ends in one of the three ways. -/
theorem ending_of_spanQuoted {quote : Char} (hquote : quote ≠ '\\') {r : Text}
    (h : spanQuoted quote r = (r, [])) : Ending quote r := by
  fun_induction spanQuoted quote r with
  | case1 => exact .inr (.inl fun u => rfl)
  | case2 c rest ih =>
    have hrest : spanQuoted quote rest = (rest, []) := @eq_of_map_append ['\\', c] _ _ h
    exact @Ending.append quote ['\\', c] rest (fun u => rfl) (ih hrest)
  | case3 c rest hescape hend =>
    obtain rfl : rest = [] := congrArg Prod.snd h
    have hc : c ≠ '\\' := by
      rintro rfl
      rcases hend with hend | hend
      · exact hquote hend.symm
      · exact absurd hend (by decide)
    refine .inl fun u => ?_
    rw [List.singleton_append, spanQuoted, if_pos hend]
    rintro d more rfl
    exact absurd rfl hc
  | case4 c rest hescape hend ih =>
    have hrest : spanQuoted quote rest = (rest, []) := @eq_of_map_append [c] _ _ h
    by_cases hc : c = '\\'
    · -- the backslash stands at the end
      obtain rfl : rest = [] := by
        by_contra hne
        obtain ⟨d, more, rfl⟩ := List.exists_cons_of_ne_nil hne
        exact hescape d more hc rfl
      subst hc
      refine .inr (.inr fun d u => ?_)
      rw [List.singleton_append, spanQuoted]
      rfl
    · have hcons : ∀ u, spanQuoted quote ([c] ++ u) = (spanQuoted quote u).map ([c] ++ ·) id := by
        intro u
        rw [List.singleton_append, spanQuoted, if_neg hend]
        · rfl
        · rintro d more rfl
          exact absurd rfl hc
      exact (ih hrest).append hcons

/-- What is read on when the blank `c` and the text `t` have been written behind a text: both, or
the text, or what a string leaves of them. -/
def IsRest (c : Char) (t u : Text) : Prop :=
  u = c :: t ∨ u = t ∨
    ∃ quote, isQuote quote = true ∧ (u = (spanQuoted quote (c :: t)).2 ∨ u = (spanQuoted quote t).2)

end Text

namespace Lexeme

/-! ## What is kept -/

/-- Whether a lexeme is none of the signs that the cut looks for: a backslash, or more than one
character. -/
def isMute : Lexeme → Bool
  | plain c => c == '\\'
  | _ => true

theorem eq_slash_or_of_isMute {l : Lexeme} (h : l.isMute = true) :
    l = plain '\\' ∨ ∀ c, l ≠ plain c := by
  cases l with
  | plain c => exact .inl (by rw [beq_iff_eq.1 h])
  | escape | quoted | comment => exact .inr fun c h => Lexeme.noConfusion h

theorem brace_of_isMute {l : Lexeme} (h : l.isMute = true) : brace l = 0 := by
  rcases eq_slash_or_of_isMute h with rfl | h
  · rfl
  · rw [brace, if_neg (h _), if_neg (h _)]

theorem endsHeader_of_isMute {l : Lexeme} (h : l.isMute = true) (depth : Nat) :
    Piece.endsHeader depth l = false := by
  rw [Bool.eq_false_iff]
  intro hend
  rcases eq_slash_or_of_isMute h with rfl | h
  · simp [Piece.endsHeader] at hend
  · rcases Piece.endsHeader_iff.1 hend with hl | hl | ⟨hl, -⟩ <;> exact h _ hl

/-- Whether a lexeme stays as it is, or changes from one mute lexeme to another. -/
def Alike (l m : Lexeme) : Prop := m = l ∨ l.isMute = true ∧ m.isMute = true

theorem Alike.trans {l m n : Lexeme} (h : l.Alike m) (h' : m.Alike n) : l.Alike n := by
  rcases h with rfl | ⟨hl, hm⟩
  · exact h'
  · rcases h' with rfl | ⟨-, hn⟩
    · exact .inr ⟨hl, hm⟩
    · exact .inr ⟨hl, hn⟩

theorem alike_clip (l : Lexeme) : l.Alike l.clip := by
  cases l with
  | plain c => exact .inl rfl
  | escape c =>
    refine .inr ⟨rfl, ?_⟩
    rw [clip]
    split <;> rfl
  | quoted | comment => exact .inr ⟨rfl, rfl⟩

/-- What a sequence of lexemes must keep so that braces and headers end where they did. -/
structure Keeps (ls ks : List Lexeme) : Prop where
  level : level ks = level ls
  nested : ∀ depth, Nested depth ls → Nested depth ks
  noHeaderEnd : ∀ depth, Piece.NoHeaderEnd depth ls → Piece.NoHeaderEnd depth ks

theorem Keeps.trans {ls ks js : List Lexeme} (h : Keeps ls ks) (h' : Keeps ks js) :
    Keeps ls js where
  level := h'.level.trans h.level
  nested := fun depth hls => h'.nested depth (h.nested depth hls)
  noHeaderEnd := fun depth hls => h'.noHeaderEnd depth (h.noHeaderEnd depth hls)

/-- Blanks in front do not count. -/
theorem keeps_of_blank_append {ws : List Lexeme} (hws : ws.all isBlank) (ls : List Lexeme) :
    Keeps (ws ++ ls) ls where
  level := by rw [level_append, Piece.level_of_blanks hws, Int.zero_add]
  nested := by
    intro depth h
    have htail := (nested_append_iff.1 h).2
    rwa [Piece.level_of_blanks hws, Int.add_zero] at htail
  noHeaderEnd := by
    intro depth h
    induction ws with
    | nil => exact h
    | cons w ws ih =>
      rw [List.all_cons, Bool.and_eq_true] at hws
      have htail := (Piece.noHeaderEnd_cons_iff.1 h).2
      rw [Piece.bracketsAfter_of_isBlank hws.1] at htail
      exact ih hws.2 htail

/-- Blanks at the end do not count. -/
theorem keeps_of_append_blank {ws : List Lexeme} (hws : ws.all isBlank) (ls : List Lexeme) :
    Keeps (ls ++ ws) ls where
  level := by rw [level_append, Piece.level_of_blanks hws, Int.add_zero]
  nested := fun _ h => (nested_append_iff.1 h).1
  noHeaderEnd := fun _ h => (Piece.noHeaderEnd_append_iff.1 h).1

/-- A mute lexeme at the end may be another one. -/
theorem Alike.keeps {l m : Lexeme} (h : l.Alike m) (ls : List Lexeme) :
    Keeps (ls ++ [l]) (ls ++ [m]) := by
  rcases h with rfl | ⟨hl, hm⟩
  · exact ⟨rfl, fun _ h => h, fun _ h => h⟩
  refine ⟨?_, ?_, ?_⟩
  · rw [level_append, level_append, level_cons, level_cons, brace_of_isMute hl,
      brace_of_isMute hm]
  · intro depth h
    rw [nested_append_iff, nested_cons_iff, brace_of_isMute hl] at h
    rw [nested_append_iff, nested_cons_iff, brace_of_isMute hm]
    exact h
  · intro depth h
    rw [Piece.noHeaderEnd_append_iff] at h ⊢
    refine ⟨h.1, Piece.noHeaderEnd_cons_iff.2 ⟨endsHeader_of_isMute hm _, rfl⟩⟩

/-! ## What is read -/

/-- The last lexeme of a text with a blank behind it. -/
theorem Reads.exists_lexemes_blank {m : Lexeme} (h : m.Reads [])
    (hcomment : m.isComment = true → ∀ t, m.Reads t) {c : Char} (hc : Text.isBlank c = true)
    (t : Text) :
    ∃ n u, m.Alike n ∧ Text.lexemes (m.text ++ c :: t) = n :: Text.lexemes u ∧
      Text.IsRest c t u ∧ (u = c :: t ∨ n.isMute = true) := by
  have hstays : m.Reads (c :: t) → ∃ n u, m.Alike n ∧
      Text.lexemes (m.text ++ c :: t) = n :: Text.lexemes u ∧
        Text.IsRest c t u ∧ (u = c :: t ∨ n.isMute = true) :=
    fun hreads => ⟨m, c :: t, .inl rfl, hreads, .inl rfl, .inl rfl⟩
  cases m with
  | plain d =>
    obtain ⟨hq, -, -⟩ := reads_plain_iff.1 h
    by_cases hd : d = '\\'
    · subst hd
      exact ⟨escape c, t, .inr ⟨rfl, rfl⟩, Text.lexemes_escape c t, .inr (.inl rfl), .inr rfl⟩
    · refine hstays (reads_plain_iff.2 ⟨hq, fun h => absurd h hd, fun _ hstar => ?_⟩)
      rw [Option.some.inj hstar] at hc
      exact absurd hc (by decide)
  | escape d => exact hstays (reads_escape d _)
  | comment r => exact hstays (hcomment rfl _)
  | quoted quote r =>
    obtain ⟨hq, hspan⟩ := reads_quoted_iff.1 h
    rw [List.append_nil] at hspan
    have hslash : quote ≠ '\\' := by
      rintro rfl
      exact absurd hq (by decide)
    have hread : ∀ {front u : Text}, Text.spanQuoted quote (r ++ c :: t) = (front, u) →
        Text.lexemes ((quoted quote r).text ++ c :: t) = quoted quote front :: Text.lexemes u := by
      intro front u hu
      have happ := Text.spanQuoted_append quote (r ++ c :: t)
      rw [hu] at happ
      have hreads : (quoted quote front).Reads u :=
        reads_quoted_iff.2 ⟨hq, by rw [happ, hu]⟩
      rw [Reads, text, List.cons_append, happ] at hreads
      exact hreads
    rcases Text.ending_of_spanQuoted hslash hspan with hclosed | hopen | hescape
    · exact hstays (reads_quoted_iff.2 ⟨hq, hclosed _⟩)
    · exact ⟨_, _, .inr ⟨rfl, rfl⟩, hread (hopen _), .inr (.inr ⟨quote, hq, .inl rfl⟩), .inr rfl⟩
    · exact ⟨_, _, .inr ⟨rfl, rfl⟩, hread (hescape c t), .inr (.inr ⟨quote, hq, .inr rfl⟩),
        .inr rfl⟩

/-- Trimming a text takes the blanks off both ends, and clips the last lexeme that is no blank. -/
theorem IsReading.exists_trim_textOf {ls : List Lexeme} (hread : IsReading ls)
    (hsolid : Text.isBlankText (textOf ls) = false) :
    ∃ lead xs l ws, ls = lead ++ (xs ++ l :: ws) ∧ lead.all isBlank ∧ ws.all isBlank ∧
      Text.trim (textOf ls) = textOf xs ++ l.clip.text := by
  have hall : ls.all isBlank = false := by
    rw [Bool.eq_false_iff]
    intro hall
    rw [isBlankText_textOf hall] at hsolid
    exact Bool.noConfusion hsolid
  have hlead : (ls.takeWhile isBlank).all isBlank := List.all_takeWhile
  have hls : ls.takeWhile isBlank ++ ls.dropWhile isBlank = ls := List.takeWhile_append_dropWhile
  generalize ls.takeWhile isBlank = lead at hlead hls
  cases hcore : ls.dropWhile isBlank with
  | nil =>
    rw [hcore, List.append_nil] at hls
    rw [hls, hall] at hlead
    exact Bool.noConfusion hlead
  | cons first rest =>
    have hfirst : first.isBlank = false := by
      have hhead := List.head?_dropWhile_not isBlank ls
      rw [hcore] at hhead
      exact hhead
    have hblank : (first :: rest).all isBlank = false := by
      rw [List.all_cons, hfirst, Bool.false_and]
    obtain ⟨xs, l, ws, hsplit, hl, hws⟩ := exists_last_not_blank hblank
    rw [hcore] at hls
    have hcoreRead : IsReading (first :: rest) := by
      rw [← hls] at hread
      exact hread.of_append_right
    refine ⟨lead, xs, l, ws, by rw [← hsplit, hls], hlead, hws, ?_⟩
    have hlast := hcoreRead
    rw [hsplit] at hlast
    have htext := Text.textOf_lexemes (Text.trimEnd (textOf (xs ++ l :: ws)))
    rw [hlast.lexemes_trimEnd hl hws] at htext
    rw [← hls, textOf_append, Text.trim_append_of_isBlankText (isBlankText_textOf hlead),
      hcoreRead.trim_textOf_cons hfirst, hsplit, ← htext]
    simp

/-- **A trimmed text with a blank behind it.**  It is read as before, but for the blanks around it
and for its last lexeme, which may take the blank, and the start of what follows it if it is a
string. -/
theorem IsReading.exists_lexemes_trim_blank {ls : List Lexeme} (hread : IsReading ls)
    (hcomment : ∀ l ∈ ls, l.isComment = true → ∀ t, l.Reads t)
    (hsolid : Text.isBlankText (textOf ls) = false) {c : Char} (hc : Text.isBlank c = true)
    (t : Text) :
    ∃ ks m u, Keeps ls (ks ++ [m]) ∧
      Text.lexemes (Text.trim (textOf ls) ++ c :: t) = ks ++ m :: Text.lexemes u ∧
        Text.IsRest c t u ∧ (u = c :: t ∨ m.isMute = true) := by
  obtain ⟨lead, xs, l, ws, rfl, hlead, hws, htrim⟩ := hread.exists_trim_textOf hsolid
  have hcore : IsReading (xs ++ l :: ws) := hread.of_append_right
  have hreads : l.Reads (textOf ws) := (isReading_cons_iff.1 hcore.of_append_right).1
  have hclip : l.clip.isComment = true → ∀ t, l.clip.Reads t := by
    intro hcom
    rw [isComment_clip] at hcom
    have hevery := hcomment l (by simp) hcom
    cases l with
    | comment r =>
      rw [(hevery ['\n']).clip_comment (List.cons_ne_nil _ _)]
      exact hevery
    | plain | escape | quoted => exact Bool.noConfusion hcom
  obtain ⟨m, u, hm, hlexemes, hrest, hmute⟩ := hreads.clip.exists_lexemes_blank hclip hc t
  have hhead : (l.clip.text ++ c :: t).head? = some '*' →
      (textOf (l :: ws)).head? = some '*' := by
    rw [head?_text_append, head?_text_clip, textOf_cons, head?_text_append]
    exact id
  refine ⟨xs, m, u, ?_, ?_, hrest, hmute⟩
  · have hend : Keeps (xs ++ l :: ws) (xs ++ [l]) := by
      have hdrop := keeps_of_append_blank hws (xs ++ [l])
      rwa [List.append_assoc, List.singleton_append] at hdrop
    exact (keeps_of_blank_append hlead _).trans (hend.trans (((alike_clip l).trans hm).keeps xs))
  · rw [htrim, List.append_assoc, hcore.lexemes_append (List.cons_ne_nil l ws) hhead, hlexemes]

end Lexeme

namespace Text

/-! ## What is read on -/

theorem lexemes_singleton {d : Char} (hd : isQuote d = false) : lexemes [d] = [.plain d] := by
  rw [lexemes_cons (fun _ => rfl) (by simp), hd, if_neg Bool.false_ne_true, lexemes_nil]

/-- Of a blank and a character behind a text, there are both to read, or the character, or a string
has taken it. -/
theorem IsRest.lexemes_eq {c d : Char} {u : Text} (h : IsRest c [d] u) (hc : isBlank c = true)
    (hd : isQuote d = false) :
    lexemes u = [] ∨ ∃ ws, ws.all Lexeme.isBlank ∧ lexemes u = ws ++ [.plain d] := by
  have hsuffix : u <:+ [c, d] := by
    rcases h with rfl | rfl | ⟨quote, -, rfl | rfl⟩
    · exact List.suffix_refl _
    · exact List.suffix_cons c [d]
    · exact ⟨_, spanQuoted_append quote [c, d]⟩
    · exact List.IsSuffix.trans ⟨_, spanQuoted_append quote [d]⟩ (List.suffix_cons c [d])
  rw [List.suffix_cons_iff, List.suffix_cons_iff, List.suffix_nil] at hsuffix
  rcases hsuffix with rfl | rfl | rfl
  · refine .inr ⟨[.plain c], by rw [List.all_cons]; exact (Bool.and_true _).trans hc, ?_⟩
    rw [Piece.lexemes_cons_blank hc, lexemes_singleton hd]
    rfl
  · exact .inr ⟨[], rfl, lexemes_singleton hd⟩
  · exact .inl lexemes_nil

/-- If the character is a sign of its own at the end, no string has taken it. -/
theorem IsRest.lexemes_of_getLast? {c d : Char} {u : Text} (h : IsRest c [d] u)
    (hc : isBlank c = true) (hd : isQuote d = false) (hslash : d ≠ '\\') {front : List Lexeme}
    {m : Lexeme} (hmute : u = [c, d] ∨ m.isMute = true)
    (hlast : (front ++ m :: lexemes u).getLast? = some (.plain d)) :
    ∃ ws, ws.all Lexeme.isBlank ∧ lexemes u = ws ++ [.plain d] := by
  rcases h.lexemes_eq hc hd with hnone | hrest
  · rw [hnone, List.getLast?_concat, Option.some.injEq] at hlast
    rcases hmute with rfl | hmute
    · rw [Piece.lexemes_cons_blank hc] at hnone
      cases hnone
    · rw [hlast] at hmute
      exact absurd (beq_iff_eq.1 hmute) hslash
  · exact hrest

/-- Behind two line breaks nothing is left open. -/
theorem IsRest.lexemes_of_breaks {t u : Text} (h : IsRest '\n' ('\n' :: t) u) :
    ∃ ws, ws.all Lexeme.isBlank ∧ lexemes u = ws ++ lexemes t := by
  have hbreak : isBlank '\n' = true := by decide
  have hspan : ∀ quote s, isQuote quote = true → spanQuoted quote ('\n' :: s) = (['\n'], s) := by
    intro quote s hquote
    rw [spanQuoted, if_pos (.inr rfl)]
    exact fun d more h => absurd h (by decide)
  rcases h with rfl | rfl | ⟨quote, hquote, rfl | rfl⟩
  · refine ⟨[.plain '\n', .plain '\n'], by decide, ?_⟩
    rw [Piece.lexemes_cons_blank hbreak, Piece.lexemes_cons_blank hbreak]
    rfl
  · exact ⟨[.plain '\n'], by decide, Piece.lexemes_cons_blank hbreak t⟩
  · rw [hspan quote _ hquote]
    exact ⟨[.plain '\n'], by decide, Piece.lexemes_cons_blank hbreak t⟩
  · rw [hspan quote _ hquote]
    exact ⟨[], rfl, rfl⟩

end Text

end CssTrim
