import CssTrim.Proofs.Block.Braces
import CssTrim.Proofs.Block.Comments

/-!
# What taking out the comments leaves

Taking the comments out of a text joins what has stood around them.  Is what is
left free of comments?  There are three groups.

* Joined signs.  `Lexeme.Joins` says that a slash comes to stand in front of an
  asterisk.
* Texts.  Without joined signs the lexemes of what is left are the lexemes that are
  no comments, so that there is nothing more to take out.  With them there is a new
  comment, which swallows what follows it: `stripComments_stripComments_iff`.
* Blocks.  `isComment_segmentWith_of_not_joins` says that none of them starts as a
  comment does, and `stripping_is_final` puts texts and blocks together.
-/

namespace CssTrim

namespace Lexeme

/-! ## Joined signs -/

/-- Whether a slash comes to stand in front of an asterisk where comments are taken out.  The two
would have made up a comment without anything between them. -/
def Joins (ls : List Lexeme) : Prop := [plain '/', plain '*'] <:+: bare ls

instance (ls : List Lexeme) : Decidable (Joins ls) :=
  inferInstanceAs (Decidable (_ <:+: _))

/-- Only an asterisk starts with an asterisk. -/
theorem Reads.eq_plain_of_head? {l : Lexeme} {t : Text} (h : l.Reads t)
    (hhead : l.text.head? = some '*') : l = plain '*' := by
  cases l with
  | plain c => simpa [text] using hhead
  | escape c => simp [text] at hhead
  | quoted quote r =>
    obtain rfl : quote = '*' := by simpa [text] using hhead
    exact absurd (reads_quoted_iff.1 h).1 (by decide)
  | comment r => simp [text] at hhead

/-- If no signs are joined, the lexemes that are no comments are what reading their text gives.  The
induction is on the reading: only a slash could be read in another way in front of what is left. -/
theorem IsReading.bare_of_not_joins {ls : List Lexeme} (h : IsReading ls) (hjoins : ¬Joins ls) :
    IsReading (Lexeme.bare ls) := by
  induction ls with
  | nil => exact h
  | cons l ls ih =>
    obtain ⟨hl, hls⟩ := isReading_cons_iff.1 h
    cases hcomment : l.isComment with
    | true =>
      rw [Joins, bare_cons_of_isComment hcomment] at hjoins
      rw [bare_cons_of_isComment hcomment]
      exact ih hls hjoins
    | false =>
      rw [Joins, bare_cons hcomment] at hjoins
      have hrest : IsReading (Lexeme.bare ls) :=
        ih hls fun hpart => hjoins (hpart.trans (List.suffix_cons l _).isInfix)
      have hslash : l = plain '/' → (textOf (Lexeme.bare ls)).head? ≠ some '*' := by
        rintro rfl hstar
        cases hnext : Lexeme.bare ls with
        | nil => simp [hnext] at hstar
        | cons m ms =>
          rw [hnext, textOf_cons, head?_text_append] at hstar
          rw [hnext] at hrest hjoins
          obtain rfl := (isReading_cons_iff.1 hrest).1.eq_plain_of_head? hstar
          exact hjoins ⟨[], ms, rfl⟩
      have hreads : l.Reads (textOf (Lexeme.bare ls)) := by
        by_cases hend : ls = []
        · subst hend
          exact hl
        · exact hl.of_slash (textOf_ne_nil hend) hslash
      rw [bare_cons hcomment]
      exact isReading_cons_iff.2 ⟨hreads, hrest⟩

/-- A reading has no slash in front of an asterisk. -/
theorem IsReading.not_infix {ls : List Lexeme} (h : IsReading ls) :
    ¬[plain '/', plain '*'] <:+: ls := by
  intro hpart
  have hpair : IsReading [plain '/', plain '*'] := h.of_part hpart
  have hslash := (reads_plain_iff.1 (isReading_cons_iff.1 hpair).1).2.2 rfl
  exact hslash rfl

end Lexeme

namespace Text

/-! ## Texts -/

theorem lexemes_stripComments_of_not_joins {t : Text} (h : ¬Lexeme.Joins (lexemes t)) :
    lexemes (stripComments t) = Lexeme.bare (lexemes t) :=
  (Lexeme.isReading_lexemes t).bare_of_not_joins h

/-- **Comments can be taken out a second time** with an effect exactly if signs have been joined the
first time. -/
theorem stripComments_stripComments_iff (t : Text) :
    stripComments (stripComments t) = stripComments t ↔ ¬Lexeme.Joins (lexemes t) := by
  constructor
  · intro h
    have hread : Lexeme.IsReading (Lexeme.bare (lexemes t)) := lexemes_stripComments h
    exact hread.not_infix
  · intro h
    calc stripComments (stripComments t)
        = Lexeme.textOf (Lexeme.bare (lexemes (stripComments t))) := rfl
      _ = Lexeme.textOf (Lexeme.bare (lexemes t)) := by
          rw [lexemes_stripComments_of_not_joins h, Lexeme.bare_bare]
      _ = stripComments t := rfl

end Text

namespace Block

/-! ## Blocks -/

/-- A block of a text without comments does not start as a comment does. -/
theorem isComment_of_mem_segment {css : Text}
    (hnone : ∀ l ∈ Text.lexemes css, l.isComment = false) {b : Block} (hb : b ∈ segment css) :
    b.isComment = false := by
  obtain ⟨p, hp, n, rfl⟩ := mem_ofPieces hb
  obtain ⟨lead, core, rfl, hlead, hcore, hpart⟩ := (Piece.cut_ofLexemes _).mem hp
  obtain ⟨first, rest, hfirst, hblank⟩ := Piece.exists_lexemes_eq_cons hcore
  have hread := (Lexeme.isReading_lexemes css).of_part hpart
  have hmem : first ∈ Text.lexemes css := hpart.subset (by simp [hfirst])
  rw [isComment_ofPiece, Piece.isComment_behind hlead, Piece.isComment_eq hread hfirst hblank]
  exact hnone first hmem

theorem isComment_segmentWith_of_not_joins {css : Text} (h : ¬Lexeme.Joins (Text.lexemes css)) :
    ∀ b ∈ segmentWith false css, b.isComment = false := by
  intro b hb
  have hnone : ∀ l ∈ Text.lexemes (Text.stripComments css), l.isComment = false := by
    intro l hl
    rw [Text.lexemes_stripComments_of_not_joins h, Lexeme.bare, List.mem_filter] at hl
    simpa using hl.2
  exact isComment_of_mem_segment hnone hb

/-- **Taking out the comments leaves no comment behind** as long as none of them stands between a
slash and an asterisk.  Only then is taking them out once enough, and no block of what is left starts
as a comment does. -/
theorem stripping_is_final (css : Text) :
    (Text.stripComments (Text.stripComments css) = Text.stripComments css ↔
      ¬Lexeme.Joins (Text.lexemes css)) ∧
      (¬Lexeme.Joins (Text.lexemes css) →
        ∀ b ∈ segmentWith false css, b.isComment = false) :=
  ⟨Text.stripComments_stripComments_iff css, isComment_segmentWith_of_not_joins⟩

/-- Comments side by side, a slash in front of one, an escaped slash and an asterisk around one, and
the signs of a comment in a string. -/
theorem stripping_is_final_apart :
    let css := "/* a *//* b */.a/* c *//\x7b\x7d \\//**/* \x7b x: '/*' \x7d /* d".toList
    ¬Lexeme.Joins (Text.lexemes css) ∧
      Text.stripComments css = ".a/\x7b\x7d \\/* \x7b x: '/*' \x7d ".toList ∧
        Text.stripComments (Text.stripComments css) = Text.stripComments css ∧
          ∀ b ∈ segmentWith false css, b.isComment = false := by
  intro css
  have h : ¬Lexeme.Joins (Text.lexemes css) := by decide +kernel
  have hfinal := stripping_is_final css
  exact ⟨h, by decide +kernel, hfinal.1.2 h, hfinal.2 h⟩

/-- A comment between a slash and an asterisk.  What is left is a new comment, and the only
block. -/
theorem stripping_joins :
    let css := "//**/*".toList
    Text.stripComments css = "/*".toList ∧
      Text.stripComments (Text.stripComments css) = [] ∧
        (segmentWith false css).map Block.text = ["/*".toList] ∧
          (segmentWith false css).map Block.isComment = [true] := by
  decide +kernel

end Block

end CssTrim
