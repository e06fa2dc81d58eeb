import CssTrim.Proofs.Block.Blank
import CssTrim.Proofs.Text.Character

/-!
# The header of an at-rule

The header of an at-rule is written anew from the keyword and the condition,
without the comments that have stood in it and with one space between both.  Does
it end where the old one did, when a brace is written behind it?  There are three
groups.

* Keywords.  `IsKeyword` spells out which texts are read as keywords, and
  `atKeyword?_eq_some_iff` that there is nothing more to reading one.
* Opening braces.  `Text.OpensBody` says that a header with a brace behind it has
  no comments and that this brace is live.  Then nothing ends the header before
  the brace: `exists_lexemes_of_opensBody`.
* The headers of a stylesheet, to which `Block.exists_lexemes_header` applies
  this.
-/

namespace CssTrim

/-! ## Keywords -/

/-- Whether a text is read as a keyword behind an at sign: a hyphen or none, a letter or an
underscore, and more characters of a keyword. -/
def IsKeyword (keyword : Text) : Prop :=
  ∃ hyphen c name, (hyphen = [] ∨ hyphen = ['-']) ∧ keyword = hyphen ++ c :: name ∧
    (c = '_' ∨ Text.isAsciiLetter c = true) ∧ ∀ d ∈ name, atKeyword?.isKeywordChar d = true

theorem isKeywordChar_of_isAsciiLetter {c : Char} (hc : c = '_' ∨ Text.isAsciiLetter c = true) :
    c ≠ '-' ∧ atKeyword?.isKeywordChar c = true := by
  have hall : ∀ n < 128, Char.ofNat n = '_' ∨ Text.isAsciiLetter (Char.ofNat n) = true →
      Char.ofNat n ≠ '-' ∧ atKeyword?.isKeywordChar (Char.ofNat n) = true := by
    decide +kernel
  have hascii : c.toNat < 128 := by
    rcases hc with rfl | hletter
    · decide
    · exact Text.toNat_lt_of_isAsciiLetter hletter
  have hchar := hall c.toNat hascii
  rw [Char.ofNat_toNat] at hchar
  exact hchar hc

/-- How far the characters of a keyword go. -/
theorem takeWhile_dropWhile_keyword {name more : Text}
    (hname : ∀ c ∈ name, atKeyword?.isKeywordChar c = true)
    (hmore : more.head?.any atKeyword?.isKeywordChar = false) :
    (name ++ more).takeWhile atKeyword?.isKeywordChar = name ∧
      (name ++ more).dropWhile atKeyword?.isKeywordChar = more := by
  have hstop : more.takeWhile atKeyword?.isKeywordChar = [] ∧
      more.dropWhile atKeyword?.isKeywordChar = more := by
    cases more with
    | nil => exact ⟨rfl, rfl⟩
    | cons c more =>
      rw [List.head?_cons, Option.any_some] at hmore
      rw [List.takeWhile_cons, List.dropWhile_cons, hmore]
      exact ⟨rfl, rfl⟩
  rw [List.takeWhile_append_of_pos hname, List.dropWhile_append_of_pos hname, hstop.1, hstop.2,
    List.append_nil]
  exact ⟨rfl, rfl⟩

/-- The keyword whose name starts here, behind its hyphen or behind nothing. -/
def keywordFrom? (hyphen name : Text) : Option (Text × Text) :=
  match name with
  | c :: _ =>
    if c = '_' ∨ Text.isAsciiLetter c then
      some (hyphen ++ name.takeWhile atKeyword?.isKeywordChar,
        name.dropWhile atKeyword?.isKeywordChar)
    else none
  | [] => none

theorem atKeyword?_hyphen (name : Text) :
    atKeyword? ('@' :: '-' :: name) = keywordFrom? ['-'] name := rfl

theorem atKeyword?_of_ne_hyphen {rest : Text} (h : rest.head? ≠ some '-') :
    atKeyword? ('@' :: rest) = keywordFrom? [] rest := by
  cases rest with
  | nil => rfl
  | cons d rest =>
    have hd : d ≠ '-' := fun hd => h (congrArg some hd)
    unfold atKeyword? keywordFrom?
    simp [hd]

theorem keywordFrom?_eq_some_iff {hyphen name keyword more : Text} :
    keywordFrom? hyphen name = some (keyword, more) ↔
      ∃ c tail, keyword = hyphen ++ c :: tail ∧ name = c :: (tail ++ more) ∧
        (c = '_' ∨ Text.isAsciiLetter c = true) ∧
          (∀ d ∈ tail, atKeyword?.isKeywordChar d = true) ∧
            more.head?.any atKeyword?.isKeywordChar = false := by
  constructor
  · intro h
    cases name with
    | nil => cases h
    | cons c name =>
      rw [keywordFrom?, Option.ite_none_right_eq_some] at h
      obtain ⟨hc, hfound⟩ := h
      obtain ⟨rfl, rfl⟩ := Prod.mk.inj (Option.some.inj hfound)
      have hword := (isKeywordChar_of_isAsciiLetter hc).2
      rw [List.takeWhile_cons, if_pos hword, List.dropWhile_cons, if_pos hword]
      refine ⟨c, name.takeWhile atKeyword?.isKeywordChar, rfl, ?_, hc, ?_, ?_⟩
      · rw [List.takeWhile_append_dropWhile]
      · exact fun d hd => List.mem_takeWhile_imp hd
      · have hhead := List.head?_dropWhile_not atKeyword?.isKeywordChar name
        cases hmore : name.dropWhile atKeyword?.isKeywordChar with
        | nil => rfl
        | cons d more =>
          rw [hmore] at hhead
          exact hhead
  · rintro ⟨c, tail, rfl, rfl, hc, htail, hmore⟩
    have hword := (isKeywordChar_of_isAsciiLetter hc).2
    obtain ⟨htake, hdrop⟩ :=
      takeWhile_dropWhile_keyword (List.forall_mem_cons.2 ⟨hword, htail⟩) hmore
    rw [List.cons_append] at htake hdrop
    rw [keywordFrom?, if_pos hc, htake, hdrop]

/-- A keyword stands behind an at sign, and is as long as it can be. -/
theorem atKeyword?_eq_some_iff {t keyword more : Text} :
    atKeyword? t = some (keyword, more) ↔
      IsKeyword keyword ∧ t = '@' :: (keyword ++ more) ∧
        more.head?.any atKeyword?.isKeywordChar = false := by
  constructor
  · intro h
    obtain ⟨rest, rfl⟩ : ∃ rest, t = '@' :: rest := by
      unfold atKeyword? at h
      split at h
      · exact ⟨_, rfl⟩
      · cases h
    by_cases hhead : rest.head? = some '-'
    · obtain ⟨name, rfl⟩ := List.head?_eq_some_iff.1 hhead
      rw [atKeyword?_hyphen, keywordFrom?_eq_some_iff] at h
      obtain ⟨c, tail, rfl, rfl, hc, htail, hmore⟩ := h
      exact ⟨⟨['-'], c, tail, .inr rfl, rfl, hc, htail⟩, rfl, hmore⟩
    · rw [atKeyword?_of_ne_hyphen hhead, keywordFrom?_eq_some_iff] at h
      obtain ⟨c, tail, rfl, rfl, hc, htail, hmore⟩ := h
      exact ⟨⟨[], c, tail, .inl rfl, rfl, hc, htail⟩, rfl, hmore⟩
  · rintro ⟨⟨hyphen, c, tail, rfl | rfl, rfl, hc, htail⟩, rfl, hmore⟩
    · have hhead : (([] ++ c :: tail) ++ more).head? ≠ some '-' := by
        intro h
        exact (isKeywordChar_of_isAsciiLetter hc).1 (Option.some.inj h)
      rw [atKeyword?_of_ne_hyphen hhead, keywordFrom?_eq_some_iff]
      exact ⟨c, tail, rfl, rfl, hc, htail, hmore⟩
    · exact keywordFrom?_eq_some_iff.2 ⟨c, tail, rfl, rfl, hc, htail, hmore⟩

namespace IsKeyword

variable {keyword : Text} (h : IsKeyword keyword)

include h

theorem ne_nil : keyword ≠ [] := by
  obtain ⟨hyphen, c, name, -, rfl, -⟩ := h
  simp

theorem isKeywordChar {c : Char} (hc : c ∈ keyword) : atKeyword?.isKeywordChar c = true := by
  obtain ⟨hyphen, d, name, hhyphen, rfl, hd, hname⟩ := h
  rw [List.mem_append, List.mem_cons] at hc
  rcases hc with hc | rfl | hc
  · rcases hhyphen with rfl | rfl
    · exact absurd hc List.not_mem_nil
    · rw [List.mem_singleton.1 hc]
      decide
  · exact (isKeywordChar_of_isAsciiLetter hd).2
  · exact hname c hc

/-- The sign and the characters of a keyword are plain. -/
theorem lexemes_append (t : Text) :
    Text.lexemes ('@' :: (keyword ++ t)) = ('@' :: keyword).map .plain ++ Text.lexemes t := by
  have hplain : ∀ {c : Char} (s : Text), Text.isQuote c = false → c ≠ '\\' → c ≠ '/' →
      Text.lexemes (c :: s) = .plain c :: Text.lexemes s := by
    intro c s hquote hslash hstroke
    rw [Text.lexemes_cons (fun hc => absurd hc hslash) (fun hc => absurd hc hstroke), hquote,
      if_neg Bool.false_ne_true]
  have hall : ∀ c ∈ keyword, atKeyword?.isKeywordChar c = true := fun c hc => h.isKeywordChar hc
  rw [hplain _ (by decide) (by decide) (by decide), List.map_cons, List.cons_append]
  congr 1
  clear h
  induction keyword with
  | nil => rfl
  | cons c keyword ih =>
    obtain ⟨hc, htail⟩ := List.forall_mem_cons.1 hall
    have hne : ∀ d, atKeyword?.isKeywordChar d = false → c ≠ d := by
      rintro d hd rfl
      rw [hc] at hd
      exact Bool.noConfusion hd
    have hquote : Text.isQuote c = false := by
      rw [Text.isQuote, Bool.or_eq_false_iff, beq_eq_false_iff_ne, beq_eq_false_iff_ne]
      exact ⟨hne _ (by decide), hne _ (by decide)⟩
    rw [List.cons_append, hplain _ hquote (hne _ (by decide)) (hne _ (by decide)), ih htail]
    rfl

/-- There are no comments in a keyword. -/
theorem stripComments_eq_self_iff {t : Text} :
    Text.stripComments ('@' :: (keyword ++ t)) = '@' :: (keyword ++ t) ↔
      Text.stripComments t = t := by
  rw [Text.stripComments_eq_self_iff, Text.stripComments_eq_self_iff, h.lexemes_append]
  simp only [List.forall_mem_append, List.forall_mem_map]
  exact and_iff_right fun c _ => rfl

/-- A keyword does not end a header. -/
theorem noHeaderEnd_append_iff {ls : List Lexeme} :
    Piece.NoHeaderEnd 0 (('@' :: keyword).map .plain ++ ls) ↔ Piece.NoHeaderEnd 0 ls := by
  have hall : ∀ c ∈ '@' :: keyword, ∀ d ∈ ['\x7b', '\x7d', ';', '(', '[', ')', ']'], c ≠ d := by
    intro c hc d hd
    rcases List.mem_cons.1 hc with rfl | hc
    · rintro rfl
      exact absurd hd (by decide)
    · have hsigns : ['\x7b', '\x7d', ';', '(', '[', ')', ']'].any
          atKeyword?.isKeywordChar = false := by decide
      rintro rfl
      exact List.any_eq_false.1 hsigns c hd (h.isKeywordChar hc)
  generalize '@' :: keyword = front at hall
  clear h
  induction front with
  | nil => rfl
  | cons c front ih =>
    obtain ⟨hc, htail⟩ := List.forall_mem_cons.1 hall
    have hends : Piece.endsHeader 0 (.plain c) = false := by
      simp [Piece.endsHeader, hc]
    have hbrackets : Piece.bracketsAfter 0 (.plain c) = 0 := by
      unfold Piece.bracketsAfter
      split
      all_goals simp_all
    rw [List.map_cons, List.cons_append, Piece.noHeaderEnd_cons_iff, hbrackets]
    exact ⟨fun hls => (ih htail).1 hls.2, fun hls => ⟨hends, (ih htail).2 hls⟩⟩

end IsKeyword

namespace Text

/-! ## Opening braces -/

/-- Whether a header with a brace behind it opens a body: there is no comment in it, and the brace
is live. -/
def OpensBody (header : Text) : Prop :=
  let opening := header ++ [' ', '\x7b']
  stripComments opening = opening ∧ (live opening).getLast? = some (some '\x7b')

instance (header : Text) : Decidable (OpensBody header) :=
  inferInstanceAs (Decidable (_ ∧ _))

end Text

/-- The header of an at-rule has no blanks around it, and a space behind the keyword where there is
a condition. -/
theorem IsKeyword.trim_header {keyword condition : Text} (h : IsKeyword keyword)
    (hcondition : Text.trim condition = condition) :
    Text.trim ('@' :: keyword ++ ' ' :: condition) =
      '@' :: (keyword ++ if condition = [] then [] else ' ' :: condition) := by
  rw [List.cons_append, Text.trim_cons (by decide), ← List.cons_append]
  split
  · rename_i hnil
    obtain ⟨init, c, hlast⟩ : ∃ init c, keyword = init ++ [c] :=
      ⟨_, _, (List.dropLast_concat_getLast h.ne_nil).symm⟩
    have hword : atKeyword?.isKeywordChar c = true := h.isKeywordChar (by simp [hlast])
    have hc : Text.isBlank c = false := by
      rw [Bool.eq_false_iff]
      intro hblank
      have hhyphen : c ≠ '-' := by
        rintro rfl
        exact absurd hblank (by decide)
      rw [atKeyword?.isKeywordChar, Text.isWordChar_of_isBlank hblank, Bool.or_false,
        beq_iff_eq] at hword
      exact hhyphen hword
    have hspace : Text.isBlankText [' '] = true := by decide
    rw [hnil, Text.trimEnd_append_of_isBlankText _ hspace, List.append_nil, hlast,
      ← List.cons_append, Text.trimEnd_concat _ hc]
  · rename_i hne
    have hsolid := Text.isBlankText_eq_false hcondition hne
    rw [List.append_cons, Text.trimEnd_append_of_not_isBlankText _ hsolid,
      Text.trimEnd_eq_self hcondition]
    simp

/-- The header of an at-rule is read with its keyword and its condition. -/
theorem IsKeyword.exists_atKeyword?_header {keyword : Text} (h : IsKeyword keyword) (more : Text) :
    ∃ rest, atKeyword? (Text.trim ('@' :: keyword ++ ' ' :: Text.trim more)) =
      some (keyword, rest) ∧ Text.trim rest = Text.trim more := by
  rw [h.trim_header (Text.trim_trim more)]
  by_cases hnil : Text.trim more = []
  · rw [if_pos hnil, hnil]
    exact ⟨[], atKeyword?_eq_some_iff.2 ⟨h, rfl, rfl⟩, rfl⟩
  · have hspace : Text.isBlankText [' '] = true := by decide
    have hstop : atKeyword?.isKeywordChar ' ' = false := by decide
    rw [if_neg hnil]
    refine ⟨' ' :: Text.trim more, atKeyword?_eq_some_iff.2 ⟨h, rfl, hstop⟩, ?_⟩
    rw [← List.singleton_append, Text.trim_append_of_isBlankText hspace, Text.trim_trim]

/-- There is no comment behind the keyword of a header that opens a body. -/
theorem IsKeyword.stripComments_of_opensBody {keyword : Text} (h : IsKeyword keyword) {more : Text}
    (hopens : Text.OpensBody (Text.trim ('@' :: keyword ++ ' ' :: Text.trim more))) :
    Text.stripComments more = more := by
  have hspace : Text.isBlank ' ' = true := by decide
  have hopening := hopens.1
  rw [h.trim_header (Text.trim_trim more)] at hopening
  apply Text.stripComments_eq_self_of_trim
  by_cases hnil : Text.trim more = []
  · rw [hnil, Text.stripComments, Text.lexemes_nil]
    rfl
  · rw [if_neg hnil, List.cons_append, List.append_assoc, h.stripComments_eq_self_iff,
      Text.stripComments_eq_self_iff, List.cons_append, Piece.lexemes_cons_blank hspace,
      List.forall_mem_cons, ← Text.stripComments_eq_self_iff] at hopening
    exact Text.stripComments_eq_self_of_append hopening.2

/-- Nothing ends the header behind a keyword without comments, since nothing did when the comments
were still there. -/
theorem exists_noHeaderEnd_of_keyword {keyword more : Text} (hkeyword : IsKeyword keyword)
    {header : List Lexeme} (hread : Lexeme.IsReading header) (hend : Piece.NoHeaderEnd 0 header)
    (hwritten : Text.trim (Lexeme.textOf (Lexeme.bare header)) = '@' :: (keyword ++ more))
    (hmore : Text.stripComments more = more) :
    ∃ w, Text.isBlankText w ∧ Piece.NoHeaderEnd 0 (Text.lexemes (more ++ w)) ∧
      ∀ l ∈ Text.lexemes (more ++ w), l.isComment = false := by
  have hstripped : Text.stripComments (Lexeme.textOf (Lexeme.bare header)) =
      Lexeme.textOf (Lexeme.bare header) := by
    apply Text.stripComments_eq_self_of_trim
    rw [hwritten, hkeyword.stripComments_eq_self_iff, hmore]
  have hbare : Text.lexemes (Lexeme.textOf (Lexeme.bare header)) = Lexeme.bare header := by
    rw [← hread.stripComments_textOf] at hstripped ⊢
    rw [Text.lexemes_stripComments hstripped, hread]
  obtain ⟨v, w, hv, hw, hsplit⟩ :=
    Text.exists_append_trim_append (Lexeme.textOf (Lexeme.bare header))
  obtain ⟨ws, hws, hlead⟩ := Piece.exists_lexemes_blank_append hv
  have hlexemes : Lexeme.bare header =
      ws ++ (('@' :: keyword).map .plain ++ Text.lexemes (more ++ w)) := by
    rw [hwritten, List.cons_append, List.append_assoc] at hsplit
    rw [← hbare, hsplit, hlead, hkeyword.lexemes_append]
  refine ⟨w, hw, ?_, ?_⟩
  · have hbareEnd := Piece.noHeaderEnd_bare hend
    rw [hlexemes] at hbareEnd
    exact hkeyword.noHeaderEnd_append_iff.1
      ((Lexeme.keeps_of_blank_append hws _).noHeaderEnd 0 hbareEnd)
  · intro l hl
    have hmem : l ∈ Lexeme.bare header := by
      rw [hlexemes]
      simp [hl]
    simpa [Lexeme.bare] using (List.mem_filter.1 hmem).2

/-- **The header ends at the brace.**  Let `ls` be the lexemes behind a keyword, none of which ends
the header.  If the header that is written anew opens a body, nothing in front of its brace ends it
either. -/
theorem exists_lexemes_of_opensBody {keyword : Text} (hkeyword : IsKeyword keyword)
    {ls : List Lexeme} (hread : Lexeme.IsReading ls) (hnone : ∀ l ∈ ls, l.isComment = false)
    (hend : Piece.NoHeaderEnd 0 ls)
    (hopens : Text.OpensBody (Text.trim ('@' :: keyword ++ ' ' :: Text.trim (Lexeme.textOf ls)))) :
    ∃ ks, Text.lexemes (Text.trim ('@' :: keyword ++ ' ' :: Text.trim (Lexeme.textOf ls)) ++
        [' ', '\x7b']) = ks ++ [.plain '\x7b'] ∧ Piece.NoHeaderEnd 0 ks := by
  have hspace : Text.isBlank ' ' = true := by decide
  have hbrace : Text.isQuote '\x7b' = false := by decide
  have hgap : ∀ {depth ks}, Piece.NoHeaderEnd depth (.plain ' ' :: ks) ↔
      Piece.NoHeaderEnd depth ks := by
    intro depth ks
    rw [Piece.noHeaderEnd_cons_iff, Piece.bracketsAfter_of_isBlank (by decide)]
    exact and_iff_right (by simp [Piece.endsHeader])
  have hlast := hopens.2
  rw [Text.live_eq_flatMap, Lexeme.getLast?_flatMap_live] at hlast
  rw [hkeyword.trim_header (Text.trim_trim _)] at hlast ⊢
  by_cases hnil : Text.trim (Lexeme.textOf ls) = []
  · rw [if_pos hnil, List.append_nil, List.cons_append, hkeyword.lexemes_append,
      Piece.lexemes_cons_blank hspace, Text.lexemes_singleton hbrace]
    refine ⟨('@' :: keyword).map .plain ++ [.plain ' '], by simp, ?_⟩
    rw [hkeyword.noHeaderEnd_append_iff, hgap]
    exact Piece.noHeaderEnd_nil 0
  · have hsolid : Text.isBlankText (Lexeme.textOf ls) = false := by
      rw [Bool.eq_false_iff]
      exact fun hblank => hnil (Text.trim_eq_nil_iff.2 hblank)
    have hcomment : ∀ l ∈ ls, l.isComment = true → ∀ t, l.Reads t := by
      intro l hl hcom
      rw [hnone l hl] at hcom
      exact Bool.noConfusion hcom
    obtain ⟨ks, m, u, hkeeps, hlexemes, hrest, hmute⟩ :=
      hread.exists_lexemes_trim_blank hcomment hsolid hspace ['\x7b']
    have hopening : Text.lexemes ('@' :: (keyword ++ (' ' :: Text.trim (Lexeme.textOf ls))) ++
        [' ', '\x7b']) =
          ('@' :: keyword).map .plain ++ .plain ' ' :: (ks ++ m :: Text.lexemes u) := by
      rw [← hlexemes, ← Piece.lexemes_cons_blank hspace, ← hkeyword.lexemes_append]
      simp
    rw [if_neg hnil, hopening] at hlast ⊢
    have hks : Piece.NoHeaderEnd 0 (ks ++ [m]) := hkeeps.noHeaderEnd 0 hend
    rw [← List.cons_append, ← List.append_assoc] at hlast
    obtain ⟨ws, hws, hu⟩ := hrest.lexemes_of_getLast? hspace hbrace (by decide) hmute hlast
    rw [hu]
    refine ⟨('@' :: keyword).map .plain ++ .plain ' ' :: (ks ++ [m] ++ ws), by simp, ?_⟩
    have hblanks : ∀ depth, Piece.NoHeaderEnd depth (ws ++ []) :=
      fun depth => Piece.noHeaderEnd_blank_append hws (Piece.noHeaderEnd_nil depth)
    rw [hkeyword.noHeaderEnd_append_iff, hgap, ← List.append_nil ws]
    exact Piece.noHeaderEnd_append_iff.2 ⟨hks, hblanks _⟩

namespace Block

/-! ## The headers of a stylesheet -/

theorem header_of_isAtRule {b : Block} (hrule : b.isAtRule = true) (hpass : b.passthrough = false) :
    b.header = Text.trim ('@' :: b.keyword ++ ' ' :: b.condition) := by
  rw [Block.header, hpass, if_neg Bool.false_ne_true, if_pos hrule]

/-- The header of an at-rule has no blanks around it. -/
theorem trim_header {b : Block} (hrule : b.isAtRule = true) (hpass : b.passthrough = false) :
    Text.trim b.header = b.header ∧ Text.isBlankText b.header = false := by
  have hat : Text.isBlank '@' = false := by decide
  rw [header_of_isAtRule hrule hpass]
  refine ⟨Text.trim_trim _, ?_⟩
  rw [List.cons_append, Text.trim_cons hat, Text.trimEnd_cons hat, Text.isBlankText_cons, hat,
    Bool.false_and]

/-- Where the keyword and the condition of an at-rule come from. -/
theorem exists_header_of_mem_segment {css : Text} {b : Block} (hb : b ∈ segment css)
    (hrule : b.isAtRule = true) :
    ∃ header more, Lexeme.IsReading header ∧ Piece.NoHeaderEnd 0 header ∧
      atKeyword? (Text.trim (Lexeme.textOf (Lexeme.bare header))) = some (b.keyword, more) ∧
        b.condition = Text.trim more ∧
          b.header = Text.trim ('@' :: b.keyword ++ ' ' :: b.condition) := by
  obtain ⟨p, hp, n, rfl⟩ := mem_ofPieces hb
  obtain ⟨lead, core, rfl, hlead, hcore, hpart⟩ := (Piece.cut_ofLexemes _).mem hp
  have hread := (Lexeme.isReading_lexemes css).of_part hpart
  cases core with
  | fragment => exact absurd hrule Bool.false_ne_true
  | rule header inner closed =>
    have hend : Piece.NoHeaderEnd 0 header := by
      rcases hcore with hcore | hcore
      · cases hcore
        assumption
      · cases hcore
        assumption
    rw [Piece.lexemes, List.append_assoc] at hread
    have hwritten : Text.trim (Lexeme.textOf ((lead ++ header).filter (!·.isComment))) =
        Text.trim (Lexeme.textOf (Lexeme.bare header)) := by
      show Text.trim (Lexeme.textOf (Lexeme.bare (lead ++ header))) = _
      rw [Lexeme.bare_append, Lexeme.bare_of_blanks hlead, Lexeme.textOf_append,
        Text.trim_append_of_isBlankText (Lexeme.isBlankText_textOf hlead)]
    rw [Piece.behind, ofPiece, ofRule, hwritten] at hrule ⊢
    cases hfound : atKeyword? (Text.trim (Lexeme.textOf (Lexeme.bare header))) with
    | none =>
      rw [hfound] at hrule
      exact absurd hrule Bool.false_ne_true
    | some found =>
      rw [hfound] at hrule
      exact ⟨header, found.2, hread.of_append_left, hend, hfound, rfl, header_of_isAtRule hrule rfl⟩

theorem selectors_eq_nil_of_mem_segment {css : Text} {b : Block} (hb : b ∈ segment css)
    (hrule : b.isAtRule = true) : b.selectors = [] := by
  obtain ⟨p, -, n, rfl⟩ := mem_ofPieces hb
  cases p with
  | fragment => rfl
  | rule header inner closed =>
    rw [ofPiece, ofRule] at hrule ⊢
    split
    · rfl
    · rename_i hnone
      rw [hnone] at hrule
      exact absurd hrule Bool.false_ne_true

/-- Without blanks, a header is what has stood in front of the body without its comments. -/
theorem withoutBlanks_header_ofRule (order : Nat) (header inner : List Lexeme) (closed : Bool) :
    Text.withoutBlanks (ofRule order header inner closed).header =
      Text.withoutBlanks (Lexeme.textOf (Lexeme.bare header)) := by
  have hwritten := Text.withoutBlanks_trim (Lexeme.textOf (Lexeme.bare header))
  rw [ofRule, ← Lexeme.bare]
  split
  · rename_i keyword more hfound
    obtain ⟨hkeyword, heq, -⟩ := atKeyword?_eq_some_iff.1 hfound
    have hgap : ∀ t, Text.withoutBlanks (' ' :: t) = Text.withoutBlanks t :=
      fun t => List.filter_cons_of_neg (by decide)
    rw [heq] at hwritten
    rw [header_of_isAtRule]
    · dsimp only
      rw [Text.withoutBlanks_trim, ← hwritten, ← List.cons_append, Text.withoutBlanks_append,
        Text.withoutBlanks_append, hgap, Text.withoutBlanks_trim]
    · simpa [isAtRule] using hkeyword.ne_nil
    · rfl
  · exact hwritten

/-- **The header of an at-rule that opens a body** is read with the keyword and the condition of the
at-rule, and ends at its brace. -/
theorem exists_lexemes_header {css : Text} {b : Block} (hb : b ∈ segment css)
    (hrule : b.isAtRule = true) (hopens : Text.OpensBody b.header) :
    ∃ ks more, Text.lexemes (b.header ++ [' ', '\x7b']) = ks ++ [.plain '\x7b'] ∧
      Piece.NoHeaderEnd 0 ks ∧ atKeyword? b.header = some (b.keyword, more) ∧
        Text.trim more = b.condition := by
  obtain ⟨header, more, hread, hend, hfound, hcondition, hheader⟩ :=
    exists_header_of_mem_segment hb hrule
  obtain ⟨hkeyword, hwritten, -⟩ := atKeyword?_eq_some_iff.1 hfound
  rw [hcondition] at hheader
  rw [hheader] at hopens ⊢
  obtain ⟨rest, hrest, htrim⟩ := hkeyword.exists_atKeyword?_header more
  have hmore := hkeyword.stripComments_of_opensBody hopens
  obtain ⟨w, hw, hclear, hnone⟩ := exists_noHeaderEnd_of_keyword hkeyword hread hend hwritten hmore
  have hbehind : Text.trim (Lexeme.textOf (Text.lexemes (more ++ w))) = Text.trim more := by
    rw [Text.textOf_lexemes, Text.trim_append_right_of_isBlankText more hw]
  rw [← hbehind] at hopens
  obtain ⟨ks, hks, hksEnd⟩ := exists_lexemes_of_opensBody hkeyword
    (Lexeme.isReading_lexemes (more ++ w)) hnone hclear hopens
  rw [hbehind] at hks
  exact ⟨ks, rest, hks, hksEnd, hrest, htrim.trans hcondition.symm⟩

end Block

end CssTrim
