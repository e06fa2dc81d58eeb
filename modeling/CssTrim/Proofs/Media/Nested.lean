import CssTrim.Proofs.Media.Regroup

/-!
# What is nested in merged media blocks

A merged block holds the inner texts of its members one below the other, those
that are blank left out.  Where every other one but the last ends between two
nested pieces, the blocks nested in the merged block say the same as those nested
in the members, one member after the other:
`forall₂_agrees_segmentInner_merged`.

A member may also end with a fragment that nothing ends, such as a stray word.
Then this fragment and the first piece of the next member are read as one, as
`segmentInner_combine_fragment` shows.
-/

namespace CssTrim

namespace Block

theorem Agrees.refl (b : Block) : b.Agrees b :=
  ⟨rfl, rfl, rfl, rfl, rfl, rfl, rfl, fun _ => rfl⟩

end Block

namespace Media

open Piece (Agrees ofLexemes)

/-! ## Inner texts one below the other -/

/-- The blocks whose inner text is not blank. -/
def filled (bs : List Block) : List Block := bs.filter fun b => !Text.isBlankText b.inner

/-- Whether every block of a list but the last of them ends between two nested pieces, blocks with a
blank inner text left out. -/
def Settled (bs : List Block) : Prop := ∀ b ∈ (filled bs).dropLast, Text.isSettled b.inner

instance (bs : List Block) : Decidable (Settled bs) :=
  inferInstanceAs (Decidable (∀ b ∈ (filled bs).dropLast, Text.isSettled b.inner))

section Cons

variable {b : Block} {bs : List Block}

theorem settled_cons_of_blank (hblank : Text.isBlankText b.inner = true) :
    Settled (b :: bs) ↔ Settled bs := by
  rw [Settled, filled, List.filter_cons_of_neg (by simp [hblank])]
  rfl

theorem settled_cons_of_not_blank (hblank : Text.isBlankText b.inner = false) :
    Settled (b :: bs) ↔ (filled bs ≠ [] → Text.isSettled b.inner) ∧ Settled bs := by
  rw [Settled, filled, List.filter_cons_of_pos (by simp [hblank]), Settled, ← filled]
  cases filled bs with
  | nil => simp
  | cons c cs => simp

/-- The inner texts that are joined are those of blocks that are filled. -/
theorem filled_ne_nil_of_inners (h : inners bs ≠ []) : filled bs ≠ [] := by
  intro hnone
  apply h
  rw [inners, List.filter_eq_nil_iff, List.forall_mem_map]
  intro c hc
  have hblank := List.filter_eq_nil_iff.1 hnone c hc
  simpa [Text.trim_eq_nil_iff] using hblank

end Cons

/-- A blank text has no pieces. -/
theorem ofLexemes_lexemes_of_isBlankText {t : Text} (h : Text.isBlankText t) :
    ofLexemes (Text.lexemes t) = [] := by
  have htrim := Piece.forall₂_agrees_trim t
  rw [Text.trim_eq_nil_iff.2 h, Text.lexemes_nil, Piece.ofLexemes_of_blanks rfl] at htrim
  exact List.forall₂_nil_left_iff.1 htrim

/-- The inner texts of several blocks, with blank lines between them, are cut into the pieces of all
of them.  Each inner text has been read with a closing brace behind it. -/
theorem forall₂_agrees_inners {bs : List Block}
    (hread : ∀ b ∈ bs, ∃ ls, b.inner = Lexeme.textOf ls ∧ Lexeme.IsReading (ls ++ [.plain '\x7d']))
    (hsettled : Settled bs) :
    List.Forall₂ Agrees
      (ofLexemes (Text.lexemes (Text.joinWith ['\n', '\n'] (inners bs))))
      (bs.flatMap fun b => ofLexemes (Text.lexemes b.inner)) := by
  induction bs with
  | nil =>
    have hnone : ofLexemes (Text.lexemes (Text.joinWith ['\n', '\n'] (inners []))) = [] :=
      ofLexemes_lexemes_of_isBlankText rfl
    rw [hnone]
    exact .nil
  | cons b bs ih =>
    obtain ⟨⟨ls, hinner, hls⟩, hread⟩ := List.forall_mem_cons.1 hread
    rw [List.flatMap_cons]
    cases hblank : Text.isBlankText b.inner with
    | true =>
      have htail := ih hread ((settled_cons_of_blank hblank).1 hsettled)
      have hnone : Text.trim b.inner = [] := Text.trim_eq_nil_iff.2 hblank
      have hskip : inners (b :: bs) = inners bs := by simp [inners, hnone]
      rw [hskip, ofLexemes_lexemes_of_isBlankText hblank, List.nil_append]
      exact htail
    | false =>
      obtain ⟨hhead, hsettled⟩ := (settled_cons_of_not_blank hblank).1 hsettled
      have htail := ih hread hsettled
      have hsome : Text.trim b.inner ≠ [] := by
        intro hnil
        rw [Text.trim_eq_nil_iff.1 hnil] at hblank
        exact Bool.noConfusion hblank
      have hkeep : inners (b :: bs) = Text.trim b.inner :: inners bs := by simp [inners, hsome]
      rw [hkeep]
      cases hrest : inners bs with
      | nil =>
        rw [hrest, Text.joinWith_nil, Text.lexemes_nil, Piece.ofLexemes_of_blanks rfl] at htail
        rw [List.forall₂_nil_left_iff.1 htail, Text.joinWith_singleton, List.append_nil]
        exact Piece.forall₂_agrees_trim b.inner
      | cons t ts =>
        have hend := hhead (filled_ne_nil_of_inners (by rw [hrest]; exact List.cons_ne_nil _ _))
        rw [hinner] at hend
        have hlexemes : Text.lexemes (Lexeme.textOf ls) = ls := hls.of_append_left
        have hjoin := Piece.forall₂_agrees_settled hls (List.cons_ne_nil _ _) hend
          ('\n' :: Text.joinWith ['\n', '\n'] (t :: ts))
        have hbreak : Text.isBlankText ['\n'] = true := by decide
        have hblanks := Piece.forall₂_agrees_blank_append hbreak
          (Text.joinWith ['\n', '\n'] (t :: ts))
        rw [hrest] at htail
        rw [Text.joinWith_cons_cons, hinner, hlexemes]
        exact Piece.forall₂_agrees_trans hjoin
          (List.rel_append (Piece.forall₂_agrees_refl _) (Piece.forall₂_agrees_trans hblanks htail))

/-! ## Merged blocks -/

theorem passthrough_of_query?_eq_some {b : Block} {q : Text} (h : query? b = some q) :
    b.passthrough = false := by
  rw [query?, Option.ite_none_right_eq_some] at h
  simpa using h.1.2.2

theorem segmentInner_of_query? {b : Block} {q t : Text} (hquery : query? b = some q)
    (hbody : b.body = '\x7b' :: (t ++ ['\x7d'])) : b.segmentInner = Block.segment t :=
  Block.segmentInner_of_body hbody (passthrough_of_query?_eq_some hquery)
    (malformed_of_query?_eq_some hquery)

/-- The members of a query have been read with their closing braces behind them, and what is nested
in them is what their inner texts are cut into. -/
theorem exists_inner_of_mem_membersOf {css : Text} {b : Block} {q : Text}
    (hb : b ∈ membersOf q (Block.segment css)) :
    (∃ ls, b.inner = Lexeme.textOf ls ∧ Lexeme.IsReading (ls ++ [.plain '\x7d'])) ∧
      b.segmentInner = Block.segment b.inner := by
  obtain ⟨hmem, hquery⟩ := mem_membersOf_iff.1 hb
  have hwell := malformed_of_query?_eq_some hquery
  obtain ⟨ls, hbody, hread, -⟩ := Block.exists_inner_of_mem_segment hmem
    (passthrough_of_query?_eq_some hquery) hwell
  have hinner := Block.inner_of_body hbody hwell
  refine ⟨⟨ls, hinner, hread⟩, ?_⟩
  rw [segmentInner_of_query? hquery hbody, hinner]

/-- **What is nested in a merged block.**  Where no member in front of another one that is filled
ends with a fragment that nothing ends, it is what is nested in the members, one member after the
other. -/
theorem forall₂_agrees_segmentInner_merged {css : Text} {q : Text} {first : Block}
    {others : List Block} (hmembers : membersOf q (Block.segment css) = first :: others)
    (hsettled : Settled (membersOf q (Block.segment css))) :
    List.Forall₂ Block.Agrees (Group.mk q first others).merged.segmentInner
      ((membersOf q (Block.segment css)).flatMap Block.segmentInner) := by
  by_cases hmany : others = []
  · subst hmany
    rw [hmembers, List.flatMap_singleton]
    exact List.forall₂_same.2 fun b _ => Block.Agrees.refl b
  have hnested : (membersOf q (Block.segment css)).flatMap Block.segmentInner =
      (membersOf q (Block.segment css)).flatMap fun b => Block.segment b.inner :=
    List.flatMap_congr fun b hb => (exists_inner_of_mem_membersOf hb).2
  have hpieces : List.Forall₂ (fun b p => ∃ n, b = Block.ofPiece n p)
      ((membersOf q (Block.segment css)).flatMap fun b => Block.segment b.inner)
      ((membersOf q (Block.segment css)).flatMap fun b => ofLexemes (Text.lexemes b.inner)) := by
    apply List.rel_flatMap (List.forall₂_same.2 fun b _ => rfl)
    rintro b _ rfl
    exact Block.forall₂_ofPieces 0 _
  have hjoin := forall₂_agrees_inners (fun b hb => (exists_inner_of_mem_membersOf hb).1) hsettled
  have htrim := Piece.forall₂_agrees_trim
    ('\n' :: Text.joinWith ['\n', '\n'] (inners (membersOf q (Block.segment css))) ++ ['\n'])
  have hbreak : Text.isBlankText ['\n'] = true := by decide
  rw [Text.trim_append_right_of_isBlankText _ hbreak, ← List.singleton_append,
    Text.trim_append_of_isBlankText hbreak, trim_joinWith_inners] at htrim
  have hfirst : first ∈ membersOf q (Block.segment css) := by
    rw [hmembers]
    exact List.mem_cons_self
  have hquery : query? (Group.mk q first others).merged = some q :=
    (query?_merged _).trans (mem_membersOf_iff.1 hfirst).2
  rw [segmentInner_of_query? hquery (body_merged hmany), Group.members, ← hmembers, hnested]
  exact Block.forall₂_agrees_ofPieces 0
    (Piece.forall₂_agrees_trans (Piece.forall₂_agrees_symm htrim) hjoin) hpieces

/-- A block of a merged list that has a query is merged from all blocks with this query. -/
theorem exists_group_of_mem_combine {bs : List Block} {m : Block} {q : Text} (hm : m ∈ combine bs)
    (hquery : query? m = some q) :
    ∃ first others, membersOf q bs = first :: others ∧ m = (Group.mk q first others).merged := by
  have hall := forall₂_leads_combine bs
  obtain ⟨i, hi, rfl⟩ := List.mem_iff_getElem.1 hm
  have hlead : i < (leaders bs).length := hall.length_eq.symm ▸ hi
  have hleads := hall.get hlead hi
  rw [List.get_eq_getElem, List.get_eq_getElem] at hleads
  have hq := (StandsFor.of_leads hleads).query.symm.trans hquery
  simp only [Leads, hq] at hleads
  obtain ⟨others, hmembers, hmerged⟩ := hleads
  exact ⟨_, others, hmembers, hmerged⟩

/-- The texts of the rules and fragments nested in a merged block are those of its members, in
order. -/
theorem map_text_segmentInner_combine {css : Text} {m : Block} {q : Text}
    (hm : m ∈ combine (Block.segment css)) (hquery : query? m = some q)
    (hsettled : Settled (membersOf q (Block.segment css))) :
    m.segmentInner.map Block.text =
      (membersOf q (Block.segment css)).flatMap fun b => b.segmentInner.map Block.text := by
  obtain ⟨first, others, hmembers, rfl⟩ := exists_group_of_mem_combine hm hquery
  have hagrees := forall₂_agrees_segmentInner_merged hmembers hsettled
  rw [Block.map_text_of_forall₂_agrees hagrees, List.map_flatMap]

/-- The first member ends with a statement, and the second with a stray word.  The last one is
blank. -/
theorem map_text_segmentInner_combine_statement :
    let css := ("@media print\x7b.a\x7bx:1\x7d @import b;\x7d" ++
      "@media PRINT\x7b.c\x7by:2\x7d foo\x7d@media print\x7b \x7d").toList
    Settled (membersOf "print".toList (Block.segment css)) ∧
      ∃ m ∈ combine (Block.segment css), query? m = some "print".toList ∧
        m.segmentInner.map Block.text =
          (membersOf "print".toList (Block.segment css)).flatMap fun b =>
            b.segmentInner.map Block.text := by
  intro css
  have hsettled : Settled (membersOf "print".toList (Block.segment css)) := by decide +kernel
  have hmerged : ∃ m ∈ combine (Block.segment css), query? m = some "print".toList := by
    decide +kernel
  obtain ⟨m, hm, hquery⟩ := hmerged
  exact ⟨hsettled, m, hm, hquery, map_text_segmentInner_combine hm hquery hsettled⟩

/-- The stray word at the end of the first member is read with the rule of the second. -/
theorem segmentInner_combine_fragment :
    let css := "@media print\x7b.a\x7bx:1\x7d foo\x7d@media print\x7b.b\x7by:2\x7d\x7d".toList
    ∃ m ∈ combine (Block.segment css), query? m = some "print".toList ∧
      m.segmentInner.map Block.text =
        [".a\x7bx:1\x7d".toList, "foo\n\n.b\x7by:2\x7d".toList] ∧
      ((membersOf "print".toList (Block.segment css)).flatMap fun b =>
        b.segmentInner.map Block.text) =
        [".a\x7bx:1\x7d".toList, "foo".toList, ".b\x7by:2\x7d".toList] := by
  intro css
  have hcombine : ∃ m ∈ combine (Block.segment css), query? m = some "print".toList ∧
      m.segmentInner.map Block.text =
        [".a\x7bx:1\x7d".toList, "foo\n\n.b\x7by:2\x7d".toList] := by decide +kernel
  have hmembers : ((membersOf "print".toList (Block.segment css)).flatMap fun b =>
      b.segmentInner.map Block.text) =
        [".a\x7bx:1\x7d".toList, "foo".toList, ".b\x7by:2\x7d".toList] := by decide +kernel
  obtain ⟨m, hm, hquery, htexts⟩ := hcombine
  exact ⟨m, hm, hquery, htexts, hmembers⟩

end Media

end CssTrim
