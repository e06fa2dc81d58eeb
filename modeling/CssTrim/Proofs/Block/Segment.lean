import CssTrim.Proofs.Block.Cut

/-!
# The blocks of a stylesheet

What holds of the blocks of every stylesheet.  There are three groups.

* The pieces of a cut.  `Cut.mem` says what a piece is made of: blanks, and a
  whole or an unfinished piece whose lexemes are a part of what was cut.  All
  pieces but the last one are whole.
* From pieces to blocks.  `ofPieces` numbers the blocks and keeps their text.
* `segmentWith_lossless`: the sources of the blocks, one after the other, are
  the stylesheet less blanks at its end, whatever the stylesheet.
-/

namespace CssTrim

namespace Piece

/-- The text of a piece without the blanks around it. -/
def text (p : Piece) : Text := Text.trim (Lexeme.textOf p.lexemes)

/-- Blanks in front of a piece do not count for its text. -/
theorem text_behind {lead : List Lexeme} (hlead : lead.all Lexeme.isBlank) (p : Piece) :
    (p.behind lead).text = p.text := by
  rw [text, lexemes_behind, Lexeme.textOf_append,
    Text.trim_append_of_isBlankText (Lexeme.isBlankText_textOf hlead), text]

/-! ## The pieces of a cut -/

/-- Whole and unfinished pieces start with something that is no blank. -/
theorem exists_lexemes_eq_cons {p : Piece} (hp : Whole p ∨ Unfinished p) :
    ∃ first rest, p.lexemes = first :: rest ∧ first.isBlank = false := by
  have of_opens : ∀ {ls : List Lexeme}, Opens ls →
      ∃ first rest, ls = first :: rest ∧ first.isBlank = false := by
    rintro ls ⟨first, rest, heq, hblank, _⟩
    exact ⟨first, rest, heq, hblank⟩
  rcases hp with hp | hp
  · cases hp with
    | comment body => exact ⟨.comment body, [], rfl, rfl⟩
    | statement hopens => exact of_opens hopens
    | @rule header inner hopens =>
      have hcore : Opens (header ++ .plain '{' :: (inner ++ [.plain '}'])) :=
        opens_append_cons_iff.2 hopens
      simpa [lexemes] using of_opens hcore
  · cases hp with
    | statement hopens => exact of_opens hopens
    | @rule header inner hopens =>
      have hcore : Opens (header ++ .plain '{' :: inner) := opens_append_cons_iff.2 hopens
      simpa [lexemes] using of_opens hcore

/-- What a piece of a cut is made of. -/
theorem Cut.mem {ls : List Lexeme} {ps : List Piece} (h : Cut ls ps) {p : Piece} (hp : p ∈ ps) :
    ∃ lead core, p = behind lead core ∧ lead.all Lexeme.isBlank ∧ (Whole core ∨ Unfinished core) ∧
      core.lexemes <:+: ls := by
  induction h with
  | blanks => exact absurd hp List.not_mem_nil
  | @whole lead rest q ps hlead hq _ ih =>
    rcases List.mem_cons.1 hp with rfl | hp
    · refine ⟨lead, q, rfl, hlead, .inl hq, lead, rest, ?_⟩
      rw [List.append_assoc]
    · obtain ⟨lead₂, core, heq, hlead₂, hcore, before, after, hrest⟩ := ih hp
      refine ⟨lead₂, core, heq, hlead₂, hcore, lead ++ q.lexemes ++ before, after, ?_⟩
      rw [← hrest]
      simp
  | @unfinished lead q hlead hq =>
    obtain rfl := List.mem_singleton.1 hp
    exact ⟨lead, q, rfl, hlead, .inr hq, (List.suffix_append lead q.lexemes).isInfix⟩

/-- The text of a whole or an unfinished piece is not blank. -/
theorem text_ne_nil {p : Piece} (hp : Whole p ∨ Unfinished p)
    (hread : Lexeme.IsReading p.lexemes) : p.text ≠ [] := by
  obtain ⟨first, rest, hfirst, hblank⟩ := exists_lexemes_eq_cons hp
  rw [hfirst] at hread
  have hreads := (Lexeme.isReading_cons_iff.1 hread).1
  rw [Piece.text, hfirst, Ne, Text.trim_eq_nil_iff, Lexeme.textOf_cons, Text.isBlankText_append,
    hreads.isBlankText_text hblank]
  exact Bool.false_ne_true

/-- The text of a piece of a reading is not blank. -/
theorem Cut.text_ne_nil {ls : List Lexeme} {ps : List Piece} (h : Cut ls ps)
    (hread : Lexeme.IsReading ls) {p : Piece} (hp : p ∈ ps) : p.text ≠ [] := by
  obtain ⟨lead, core, rfl, hlead, hcore, hpart⟩ := h.mem hp
  rw [text_behind hlead]
  exact Piece.text_ne_nil hcore (hread.of_part hpart)

/-- Only the last piece of a cut can be unfinished. -/
theorem Cut.whole_of_mem_dropLast {ls : List Lexeme} {ps : List Piece} (h : Cut ls ps) {p : Piece}
    (hp : p ∈ ps.dropLast) : ∃ lead core, p = behind lead core ∧ Whole core := by
  induction h with
  | blanks => exact absurd hp List.not_mem_nil
  | @whole lead rest q ps hlead hq _ ih =>
    cases ps with
    | nil => exact absurd hp List.not_mem_nil
    | cons r ps =>
      rw [List.dropLast_cons_cons] at hp
      rcases List.mem_cons.1 hp with rfl | hp
      · exact ⟨lead, q, rfl, hq⟩
      · exact ih hp
  | unfinished => exact absurd hp List.not_mem_nil

end Piece

namespace Block

/-! ## From pieces to blocks -/

@[simp] theorem order_ofPiece (order : Nat) (p : Piece) : (ofPiece order p).order = order := by
  cases p with
  | fragment => rfl
  | rule header inner closed =>
    rw [ofPiece, ofRule]
    split <;> rfl

theorem text_ofPiece (order : Nat) (p : Piece) : (ofPiece order p).text = p.text := by
  rw [text, source_ofPiece, Piece.text]

/-- A block is malformed when it is a rule that is not closed. -/
theorem malformed_ofPiece (order : Nat) (header inner : List Lexeme) (closed : Bool) :
    (ofPiece order (.rule header inner closed)).malformed = !closed := by
  rw [ofPiece, ofRule]
  split <;> rfl

/-- The block of a whole piece is well formed. -/
theorem malformed_of_whole {p : Piece} (hp : p.Whole) (order : Nat) (lead : List Lexeme) :
    (ofPiece order (p.behind lead)).malformed = false := by
  cases hp with
  | comment | statement => rfl
  | rule => exact malformed_ofPiece order _ _ true

/-- The keyword of a block says what kind of at-rule it is. -/
theorem kind_ofPiece (order : Nat) (p : Piece) :
    (ofPiece order p).kind = .ofKeyword (ofPiece order p).keyword := by
  cases p with
  | fragment => rfl
  | rule header inner closed =>
    rw [ofPiece, ofRule]
    split <;> rfl

theorem getElem?_ofPieces (order : Nat) (ps : List Piece) (i : Nat) :
    (ofPieces order ps)[i]? = ps[i]?.map (ofPiece (order + i)) := by
  induction ps generalizing order i with
  | nil => rfl
  | cons p ps ih =>
    rw [ofPieces]
    cases i with
    | zero => rfl
    | succ i =>
      rw [List.getElem?_cons_succ, List.getElem?_cons_succ, ih]
      congr 2
      omega

theorem length_ofPieces (order : Nat) (ps : List Piece) :
    (ofPieces order ps).length = ps.length := by
  induction ps generalizing order with
  | nil => rfl
  | cons p ps ih => rw [ofPieces, List.length_cons, List.length_cons, ih]

theorem flatMap_source_ofPieces (order : Nat) (ps : List Piece) :
    (ofPieces order ps).flatMap source = Lexeme.textOf (ps.flatMap Piece.lexemes) := by
  induction ps generalizing order with
  | nil => rfl
  | cons p ps ih =>
    rw [ofPieces, List.flatMap_cons, List.flatMap_cons, Lexeme.textOf_append, source_ofPiece, ih]

theorem map_order_ofPieces (order : Nat) (ps : List Piece) :
    (ofPieces order ps).map Block.order =
      (List.range' order ps.length).map Int.ofNat := by
  induction ps generalizing order with
  | nil => rfl
  | cons p ps ih =>
    rw [ofPieces, List.map_cons, order_ofPiece, ih, List.length_cons, List.range'_succ,
      List.map_cons]
    rfl

theorem ofPieces_dropLast (order : Nat) (ps : List Piece) :
    (ofPieces order ps).dropLast = ofPieces order ps.dropLast := by
  induction ps generalizing order with
  | nil => rfl
  | cons p ps ih =>
    cases ps with
    | nil => rfl
    | cons q ps =>
      have htail := ih (order + 1)
      rw [ofPieces] at htail
      rw [ofPieces, ofPieces, List.dropLast_cons_cons, htail, List.dropLast_cons_cons, ofPieces]

/-- Every block stands where its place says. -/
theorem order_of_getElem?_segment {css : Text} {i : Nat} {b : Block}
    (h : (segment css)[i]? = some b) : b.order = i := by
  rw [segment, getElem?_ofPieces, Option.map_eq_some_iff] at h
  obtain ⟨p, _, rfl⟩ := h
  rw [order_ofPiece, Nat.zero_add]

/-! ## The blocks of a stylesheet -/

/-- The sources of the blocks are the stylesheet less blanks at its end. -/
theorem exists_flatMap_source_segment (css : Text) :
    ∃ tail, (segment css).flatMap source ++ tail = css ∧ Text.isBlankText tail := by
  obtain ⟨tail, htail, hblank⟩ := Piece.ofLexemes_append (Text.lexemes css)
  refine ⟨Lexeme.textOf tail, ?_, Lexeme.isBlankText_textOf hblank⟩
  rw [segment, flatMap_source_ofPieces, ← Lexeme.textOf_append, htail, Text.textOf_lexemes]

/-- The blocks are numbered from zero on. -/
theorem map_order_segment (css : Text) :
    (segment css).map Block.order = (List.range (segment css).length).map Int.ofNat := by
  rw [segment, length_ofPieces, map_order_ofPieces, List.range_eq_range']

/-- No block is blank. -/
theorem text_ne_nil_of_mem_segment {css : Text} {b : Block} (hb : b ∈ segment css) :
    b.text ≠ [] := by
  obtain ⟨p, hp, n, rfl⟩ := mem_ofPieces hb
  rw [text_ofPiece]
  exact (Piece.cut_ofLexemes _).text_ne_nil (Lexeme.isReading_lexemes css) hp

theorem kind_of_mem_segment {css : Text} {b : Block} (hb : b ∈ segment css) :
    b.kind = .ofKeyword b.keyword := by
  obtain ⟨p, _, n, rfl⟩ := mem_ofPieces hb
  exact kind_ofPiece n p

theorem mem_segment_of_mem_segmentInner {b i : Block} (hi : i ∈ b.segmentInner) :
    i ∈ segment b.inner := by
  rw [segmentInner, segmentInnerWith] at hi
  split at hi
  · exact absurd hi List.not_mem_nil
  · exact hi

/-- All blocks but the last one are well formed. -/
theorem malformed_of_mem_dropLast_segment {css : Text} {b : Block}
    (hb : b ∈ (segment css).dropLast) : b.malformed = false := by
  rw [segment, ofPieces_dropLast] at hb
  obtain ⟨p, hp, n, rfl⟩ := mem_ofPieces hb
  obtain ⟨lead, core, rfl, hcore⟩ := (Piece.cut_ofLexemes _).whole_of_mem_dropLast hp
  exact malformed_of_whole hcore n lead

theorem isBlankText_stripComments {css : Text} (h : Text.isBlankText css) :
    Text.isBlankText (Text.stripComments css) := by
  rw [Text.isBlankText, List.all_eq_true] at h ⊢
  intro c hc
  obtain ⟨l, hl, hcl⟩ := List.mem_flatMap.1 hc
  apply h
  rw [← Text.textOf_lexemes css]
  exact List.mem_flatMap.2 ⟨l, (List.mem_filter.1 hl).1, hcl⟩

theorem segment_of_isBlankText {css : Text} (h : Text.isBlankText css) : segment css = [] := by
  rw [List.eq_nil_iff_forall_not_mem]
  intro b hb
  apply text_ne_nil_of_mem_segment hb
  rw [text, Text.trim_eq_nil_iff]
  rw [Text.isBlankText, List.all_eq_true] at h ⊢
  intro c hc
  obtain ⟨tail, htail, _⟩ := exists_flatMap_source_segment css
  apply h
  rw [← htail]
  exact List.mem_append_left tail (List.mem_flatMap.2 ⟨b, hb, hc⟩)

/-- A blank stylesheet has no blocks. -/
theorem segmentWith_of_isBlankText (keepComments : Bool) {css : Text} (h : Text.isBlankText css) :
    segmentWith keepComments css = [] := by
  cases keepComments with
  | true => exact segment_of_isBlankText h
  | false => exact segment_of_isBlankText (isBlankText_stripComments h)

/-- **Segmentation loses nothing.**  The sources of the blocks, one after the other, are the
stylesheet less blanks at its end.  The blocks are numbered from zero on, none of them is blank,
and only the last one can be malformed. -/
theorem segmentWith_lossless (keepComments : Bool) (css : Text) :
    let src := if keepComments then css else Text.stripComments css
    let bs := segmentWith keepComments css
    (∃ tail, bs.flatMap source ++ tail = src ∧ Text.isBlankText tail) ∧
      bs.map Block.order = (List.range bs.length).map Int.ofNat ∧
      (∀ b ∈ bs, b.text ≠ []) ∧
      ∀ b ∈ bs.dropLast, b.malformed = false := by
  intro src bs
  refine ⟨exists_flatMap_source_segment src, map_order_segment src, ?_, ?_⟩
  · intro b hb
    exact text_ne_nil_of_mem_segment hb
  · intro b hb
    exact malformed_of_mem_dropLast_segment hb

end Block

end CssTrim
