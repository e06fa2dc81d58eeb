import CssTrim.Proofs.Block.Bundle
import CssTrim.Proofs.Block.Header
import CssTrim.Proofs.Media.Regroup

/-!
# Merged blocks are read again

A merged block is a new text: a header that is written anew, and the inner texts
of the members, trimmed and with blank lines between them.  When is it read as the
block that it stands for?  There are four groups.

* Inner texts.  The inner texts of the members close all that they open, and two
  line breaks end what trimming has left open.  `exists_lexemes_joinWith` is the
  induction over the members.
* The merged block.  `Block.Rewritable` says that the header opens a body, and
  that the brace at the end of the body is live.  Such a block stands alone.
* The converse.  A merged block that agrees with a block of any stylesheet is
  rewritable: `rewritable_of_agrees`.
* Merged lists.  `forall₂_agrees_segment_combine_iff` puts the blocks together.
-/

namespace CssTrim

open Lexeme (level Nested)

/-! ## Inner texts -/

namespace Lexeme

/-- Whether lexemes close every brace that they open, and no other. -/
def Closes (ls : List Lexeme) : Prop := Nested 0 ls ∧ level ls = 0

theorem Closes.append {xs ys : List Lexeme} (hxs : Closes xs) (hys : Closes ys) :
    Closes (xs ++ ys) := by
  refine ⟨nested_append_iff.2 ⟨hxs.1, ?_⟩, ?_⟩
  · rw [hxs.2]
    exact hys.1
  · rw [level_append, hxs.2, hys.2]
    rfl

theorem closes_of_blanks {ws : List Lexeme} (h : ws.all isBlank) : Closes ws := by
  refine ⟨?_, Piece.level_of_blanks h⟩
  intro front hfront
  have hblank : front.all isBlank := by
    rw [List.all_eq_true] at h ⊢
    exact fun l hl => h l (hfront.subset hl)
  rw [Piece.level_of_blanks hblank]
  decide

end Lexeme

/-- Whether a text is that of lexemes that close all comments and braces that they open, trimmed. -/
def Text.IsInner (t : Text) : Prop :=
  ∃ ls, t = Text.trim (Lexeme.textOf ls) ∧ Lexeme.IsReading ls ∧
    (∀ l ∈ ls, l.isComment = true → ∀ t, l.Reads t) ∧ Lexeme.Closes ls

theorem Block.isInner_of_mem_segment {css : Text} {b : Block} (hb : b ∈ segment css)
    (hrule : b.passthrough = false) (hwell : b.malformed = false) :
    (Text.trim b.inner).IsInner := by
  obtain ⟨ls, hbody, hread, hnested, hlevel⟩ := exists_inner_of_mem_segment hb hrule hwell
  refine ⟨ls, by rw [inner_of_body hbody hwell], hread.of_append_left, ?_, hnested, hlevel⟩
  intro l hl hcomment t
  obtain ⟨xs, ys, rfl⟩ := List.append_of_mem hl
  rw [List.append_assoc, List.cons_append] at hread
  have hreads := (Lexeme.isReading_cons_iff.1 hread.of_append_right).1
  -- the closing brace follows the comment
  refine hreads.of_slash (Lexeme.textOf_ne_nil (by simp)) ?_
  rintro rfl
  exact Bool.noConfusion hcomment

/-- An inner text with a line break behind it. -/
theorem Text.IsInner.exists_lexemes_break {t : Text} (h : t.IsInner) (hne : t ≠ []) (s : Text) :
    ∃ ks m u, Lexeme.Closes (ks ++ [m]) ∧
      lexemes (t ++ '\n' :: s) = ks ++ m :: lexemes u ∧ IsRest '\n' s u ∧
        (u = '\n' :: s ∨ m.isMute = true) := by
  obtain ⟨ls, rfl, hread, hcomment, hnested, hlevel⟩ := h
  have hsolid : isBlankText (Lexeme.textOf ls) = false := by
    rw [Bool.eq_false_iff]
    exact fun hblank => hne (trim_eq_nil_iff.2 hblank)
  have hbreak : isBlank '\n' = true := by decide
  obtain ⟨ks, m, u, hkeeps, hrest⟩ := hread.exists_lexemes_trim_blank hcomment hsolid hbreak s
  exact ⟨ks, m, u, ⟨hkeeps.nested 0 hnested, hkeeps.level.trans hlevel⟩, hrest⟩

/-- **Inner texts one below the other** close what they open.  The induction is over the texts; only
the last of them can leave a string open, and then the brace at the end is not live. -/
theorem exists_lexemes_joinWith {ts : List Text} (hts : ∀ t ∈ ts, t.IsInner ∧ t ≠ [])
    (hlast : (Text.lexemes (Text.joinWith ['\n', '\n'] ts ++ ['\n', '\x7d'])).getLast? =
      some (.plain '\x7d')) :
    ∃ ks, Text.lexemes (Text.joinWith ['\n', '\n'] ts ++ ['\n', '\x7d']) =
      ks ++ [.plain '\x7d'] ∧ Lexeme.Closes ks := by
  have hbreak : Text.isBlank '\n' = true := by decide
  have hbrace : Text.isQuote '\x7d' = false := by decide
  induction ts with
  | nil =>
    refine ⟨[.plain '\n'], ?_, Lexeme.closes_of_blanks (by decide)⟩
    rw [Text.joinWith_nil, List.nil_append, Piece.lexemes_cons_blank hbreak,
      Text.lexemes_singleton hbrace]
    rfl
  | cons t ts ih =>
    obtain ⟨⟨ht, hne⟩, hts⟩ := List.forall_mem_cons.1 hts
    cases ts with
    | nil =>
      rw [Text.joinWith_singleton] at hlast ⊢
      obtain ⟨ks, m, u, hcloses, hlexemes, hrest, hmute⟩ := ht.exists_lexemes_break hne ['\x7d']
      rw [hlexemes] at hlast ⊢
      obtain ⟨ws, hws, hu⟩ := hrest.lexemes_of_getLast? hbreak hbrace (by decide) hmute hlast
      rw [hu]
      exact ⟨(ks ++ [m]) ++ ws, by simp, hcloses.append (Lexeme.closes_of_blanks hws)⟩
    | cons s ts =>
      have hassoc : Text.joinWith ['\n', '\n'] (t :: s :: ts) ++ ['\n', '\x7d'] =
          t ++ '\n' :: '\n' :: (Text.joinWith ['\n', '\n'] (s :: ts) ++ ['\n', '\x7d']) := by
        rw [Text.joinWith_cons_cons]
        simp
      generalize hrest :
        Text.joinWith ['\n', '\n'] (s :: ts) ++ ['\n', '\x7d'] = rest at hassoc ih
      obtain ⟨ks, m, u, hcloses, hlexemes, hu, -⟩ := ht.exists_lexemes_break hne ('\n' :: rest)
      obtain ⟨ws, hws, hu⟩ := hu.lexemes_of_breaks
      have hsolid : Text.lexemes rest ≠ [] := by
        intro hnil
        have htext := Text.textOf_lexemes rest
        rw [hnil, ← hrest] at htext
        simp at htext
      rw [hassoc, hlexemes, hu] at hlast ⊢
      rw [List.append_cons, ← List.append_assoc, List.getLast?_append_of_ne_nil _ hsolid] at hlast
      obtain ⟨js, hjs, hcloses'⟩ := ih hts hlast
      rw [hjs]
      exact ⟨(ks ++ [m]) ++ (ws ++ js), by simp,
        hcloses.append ((Lexeme.closes_of_blanks hws).append hcloses')⟩

/-! ## The merged block -/

/-- Whether a block with a new body is read as it is meant: the header opens a body, and the brace
at the end of the body is live. -/
def Block.Rewritable (b : Block) : Prop :=
  Text.OpensBody b.header ∧ (Text.live b.body).getLast? = some (some '\x7d')

instance (b : Block) : Decidable b.Rewritable :=
  inferInstanceAs (Decidable (_ ∧ _))

namespace Media

/-- A group is merged by giving its first member a new body. -/
theorem merged_eq_withBody {g : Group} (hmany : g.others ≠ []) :
    g.merged = g.first.withBody g.merged.body := by
  rw [Group.merged, List.isEmpty_eq_false_iff.2 hmany, if_neg Bool.false_ne_true]
  rfl

/-- The members of a group are media blocks with a closing brace. -/
theorem of_mem_members {css : Text} {g : Group} (hg : g ∈ groups (Block.segment css)) {b : Block}
    (hb : b ∈ g.members) :
    b ∈ Block.segment css ∧ b.isAtRule = true ∧ b.passthrough = false ∧ b.malformed = false := by
  rw [← mem_groups_iff.1 hg, mem_membersOf_iff, query?, Option.ite_none_right_eq_some] at hb
  obtain ⟨hmem, ⟨hkind, hwell, hpass⟩, -⟩ := hb
  refine ⟨hmem, ?_, by simpa using hpass, by simpa using hwell⟩
  cases hrule : b.isAtRule with
  | true => rfl
  | false =>
    have hnone : b.keyword.isEmpty = true := by simpa [Block.isAtRule] using hrule
    rw [Block.kind_of_mem_segment hmem, AtRuleKind.ofKeyword, if_pos hnone] at hkind
    cases hkind

/-- The inner text of a merged block closes what it opens, if the brace behind it is live. -/
theorem exists_lexemes_body_merged {css : Text} {g : Group} (hg : g ∈ groups (Block.segment css))
    (hmany : g.others ≠ [])
    (hlast : (Text.live g.merged.body).getLast? = some (some '\x7d')) :
    ∃ ks, Text.lexemes g.merged.body = .plain '\x7b' :: (ks ++ [.plain '\x7d']) ∧
      Lexeme.Closes ks := by
  have hinners : ∀ t ∈ inners g.members, t.IsInner ∧ t ≠ [] := by
    intro t ht
    obtain ⟨hmem, hne⟩ := List.mem_filter.1 ht
    obtain ⟨b, hb, rfl⟩ := List.mem_map.1 hmem
    obtain ⟨hbs, -, hpass, hwell⟩ := of_mem_members hg hb
    exact ⟨Block.isInner_of_mem_segment hbs hpass hwell, by simpa using hne⟩
  have hbody : g.merged.body = '\x7b' :: '\n' ::
      (Text.joinWith ['\n', '\n'] (inners g.members) ++ ['\n', '\x7d']) := by
    rw [body_merged hmany]
    simp
  have hlexemes : Text.lexemes g.merged.body = .plain '\x7b' :: .plain '\n' ::
      Text.lexemes (Text.joinWith ['\n', '\n'] (inners g.members) ++ ['\n', '\x7d']) := by
    have hopen : Text.isQuote '\x7b' = false := by decide
    rw [hbody, Text.lexemes_cons (fun h => absurd h (by decide)) (fun h => absurd h (by decide)),
      hopen, if_neg Bool.false_ne_true, Piece.lexemes_cons_blank (by decide)]
  rw [Text.live_eq_flatMap, Lexeme.getLast?_flatMap_live, hlexemes] at hlast
  have hsolid : Text.lexemes
      (Text.joinWith ['\n', '\n'] (inners g.members) ++ ['\n', '\x7d']) ≠ [] := by
    intro hnil
    rw [hnil] at hlast
    cases hlast
  have hend := List.getLast?_append_of_ne_nil [.plain '\x7b', .plain '\n'] hsolid
  obtain ⟨ks, hks, hcloses⟩ := exists_lexemes_joinWith hinners (hend.symm.trans hlast)
  refine ⟨.plain '\n' :: ks, by rw [hlexemes, hks]; rfl, ?_⟩
  exact @Lexeme.Closes.append [.plain '\n'] ks (Lexeme.closes_of_blanks (by decide)) hcloses

/-- The lexemes of a header and of a body are read one behind the other, and so is a line break
behind them. -/
theorem isReading_rule {header inner : List Lexeme} {t : Text}
    (hheader : Text.lexemes t = header ++ [.plain '\x7b']) {body : Text}
    (hbody : Text.lexemes body = .plain '\x7b' :: (inner ++ [.plain '\x7d'])) :
    Lexeme.IsReading ((Piece.rule header inner true).lexemes ++ [.plain '\n']) := by
  have hfront : Lexeme.IsReading (header ++ [.plain '\x7b']) := by
    rw [← hheader]
    exact Lexeme.isReading_lexemes t
  have htext := Text.textOf_lexemes body
  rw [hbody] at htext
  have hstar : body.head? = some '*' → (Lexeme.textOf [.plain '\x7b']).head? = some '*' := by
    rw [← htext]
    exact fun h => absurd (Option.some.inj h) (by decide)
  have hsplit : (Piece.rule header inner true).lexemes =
      (header ++ .plain '\x7b' :: inner) ++ [.plain '\x7d'] := rfl
  have hrule : Lexeme.IsReading ((header ++ .plain '\x7b' :: inner) ++ [.plain '\x7d']) := by
    have hlexemes := hfront.lexemes_append (List.cons_ne_nil _ _) hstar
    rw [hbody] at hlexemes
    rw [Lexeme.IsReading, List.append_assoc, List.cons_append, Lexeme.textOf_append, htext,
      hlexemes]
  have hclose : Piece.endsHeader 0 (.plain '\x7d') := Piece.endsHeader_iff.2 (.inr (.inl rfl))
  have hbreak : Text.lexemes ['\n'] = [.plain '\n'] := Text.lexemes_singleton (by decide)
  have hread := hrule.lexemes_concat_append (Piece.reads_of_endsHeader hclose ['\n'])
  rw [hbreak] at hread
  rw [hsplit, Lexeme.IsReading, Lexeme.textOf_append]
  exact hread

/-- **A merged block is read as the block that it stands for**, wherever it is written, if it is
rewritable. -/
theorem standsAlone_merged {css : Text} {g : Group} (hg : g ∈ groups (Block.segment css))
    (hmany : g.others ≠ []) (h : g.merged.Rewritable) : g.merged.StandsAlone := by
  obtain ⟨hopens, hlast⟩ := h
  obtain ⟨hmem, hrule, hpass, hwell⟩ := of_mem_members hg (List.mem_cons_self (a := g.first))
  rw [header_merged] at hopens
  obtain ⟨ks, more, hks, hend, hkeyword, hcondition⟩ :=
    Block.exists_lexemes_header hmem hrule hopens
  obtain ⟨js, hjs, hcloses⟩ := exists_lexemes_body_merged hg hmany hlast
  have hheader : Lexeme.textOf ks = g.first.header ++ [' '] := by
    have htext := Text.textOf_lexemes (g.first.header ++ [' ', '\x7b'])
    rw [hks, Lexeme.textOf_append, List.append_cons] at htext
    exact List.append_cancel_right htext
  have hbody : '\x7b' :: (Lexeme.textOf js ++ ['\x7d']) = g.merged.body := by
    have htext := Text.textOf_lexemes g.merged.body
    rw [hjs, Lexeme.textOf_cons, Lexeme.textOf_append] at htext
    exact htext
  have hopening : Piece.Opens (ks ++ [.plain '\x7b']) := by
    obtain ⟨hname, heq, -⟩ := atKeyword?_eq_some_iff.1 hkeyword
    rw [← hks, heq, List.cons_append, List.append_assoc, hname.lexemes_append]
    exact ⟨.plain '@', _, rfl, by decide, rfl⟩
  have hwhole : Piece.Whole (.rule ks js true) := .rule hopening hend hcloses.1 hcloses.2
  have hread := isReading_rule hks hjs
  refine ⟨.rule ks js true, ⟨hwhole, [.plain '\n'], List.cons_ne_nil _ _, hread⟩, ?_⟩
  intro n
  -- the header has no comments, so the keyword and the condition are read as they were
  have hwritten : Text.trim (Lexeme.textOf (ks.filter (!·.isComment))) = g.first.header := by
    have hbare : ks.filter (!·.isComment) = ks := by
      rw [List.filter_eq_self]
      intro l hl
      have hcomment := Text.stripComments_eq_self_iff.1 hopens.1 l (by rw [hks]; simp [hl])
      rw [hcomment]
      rfl
    have hspace : Text.isBlankText [' '] = true := by decide
    rw [hbare, hheader, Text.trim_append_right_of_isBlankText _ hspace,
      (Block.trim_header hrule hpass).1]
  have hkind := Block.kind_of_mem_segment hmem
  have hselectors := Block.selectors_eq_nil_of_mem_segment hmem hrule
  have htext : (Block.ofPiece n (.rule ks js true)).text = g.merged.text := by
    rw [merged_eq_withBody hmany, Block.text_withBody, Block.text_ofPiece, Piece.text,
      Piece.lexemes, if_pos rfl, List.append_assoc, List.cons_append, Lexeme.textOf_append, hheader,
      ← hbody]
    simp [Lexeme.text]
  rw [Block.ofPiece, Block.ofRule, hwritten, hkeyword] at htext ⊢
  rw [merged_eq_withBody hmany] at htext ⊢
  exact ⟨hselectors.symm, rfl, hkind.symm, hcondition, hpass.symm, hwell.symm, htext, fun _ =>
    hbody⟩

/-! ## The converse -/

/-- Nothing is trimmed off behind the body of a merged block. -/
theorem trimEnd_append_body {g : Group} (hmany : g.others ≠ []) (t : Text) :
    Text.trimEnd (t ++ g.merged.body) = t ++ g.merged.body := by
  rw [body_merged hmany, ← List.cons_append, ← List.append_assoc]
  exact Text.trimEnd_concat _ (by decide)

theorem text_merged {css : Text} {g : Group} (hg : g ∈ groups (Block.segment css))
    (hmany : g.others ≠ []) : g.merged.text = g.first.header ++ ' ' :: g.merged.body := by
  obtain ⟨-, hrule, hpass, -⟩ := of_mem_members hg (List.mem_cons_self (a := g.first))
  obtain ⟨htrim, hsolid⟩ := Block.trim_header hrule hpass
  rw [List.append_cons, ← trimEnd_append_body hmany, merged_eq_withBody hmany, Block.text_withBody,
    Text.trim, Text.trimStart_append_of_not_isBlankText hsolid, Text.trimStart_eq_self htrim,
    List.append_cons]
  rfl

/-- **Only rewritable blocks are read again.**  A merged block that agrees with a block of some
stylesheet is rewritable. -/
theorem rewritable_of_agrees {css css' : Text} {g : Group} (hg : g ∈ groups (Block.segment css))
    (hmany : g.others ≠ []) {c : Block} (hc : c ∈ Block.segment css')
    (h : c.Agrees g.merged) : g.merged.Rewritable := by
  obtain ⟨-, -, hpass, hwell⟩ := of_mem_members hg (List.mem_cons_self (a := g.first))
  have hclosed := h.malformed.trans ((malformed_merged g).trans hwell)
  have hpassed : c.passthrough = false := by
    rw [h.passthrough, merged_eq_withBody hmany]
    exact hpass
  obtain ⟨n, lead, core, rfl, hlead, -, hread, htrim⟩ := Block.exists_piece_of_mem_segment hc
  cases core with
  | fragment => exact absurd hpassed.symm Bool.false_ne_true
  | rule front inner closed =>
    obtain ⟨-, hmalformed, hbody⟩ := Block.views_ofPiece_rule n (lead ++ front) inner closed
    obtain rfl : closed = true := by
      have hends := hmalformed.symm.trans hclosed
      simpa using hends
    have hsplit : (Piece.rule front inner true).lexemes = front ++ Piece.bodyOf inner true :=
      List.append_assoc _ _ _
    have hsame : Lexeme.textOf (Piece.bodyOf inner true) = g.merged.body :=
      hbody.symm.trans (h.body ((malformed_merged g).trans hwell))
    rw [hsplit] at hread htrim
    -- the header is written in front of the body
    have hfront : Lexeme.textOf front = g.merged.header ++ [' '] := by
      have htext := h.text
      rw [text_merged hg hmany, Block.text, Text.trim, htrim, Lexeme.textOf_append, hsame,
        trimEnd_append_body hmany, List.append_cons] at htext
      rw [header_merged, List.append_cancel_right htext]
    have hopening : g.merged.header ++ [' ', '\x7b'] =
        Lexeme.textOf (front ++ [.plain '\x7b']) := by
      rw [Lexeme.textOf_append, hfront]
      simp [Lexeme.text]
    have hreadOpening : Lexeme.IsReading (front ++ [.plain '\x7b']) := by
      rw [Piece.bodyOf, List.cons_append, List.append_cons] at hread
      exact hread.of_append_left
    refine ⟨⟨?_, ?_⟩, ?_⟩
    · -- but for blanks, the header is what was there without its comments
      have hspace : Text.isBlankText [' '] = true := by decide
      have hwritten : Text.withoutBlanks g.merged.header =
          Text.withoutBlanks (Lexeme.textOf (Lexeme.bare front)) := by
        rw [← h.header, Piece.behind, Block.ofPiece, Block.withoutBlanks_header_ofRule,
          Lexeme.bare_append, Lexeme.bare_of_blanks hlead, Lexeme.textOf_append,
          Text.withoutBlanks_append,
          Text.withoutBlanks_of_isBlankText (Lexeme.isBlankText_textOf hlead), List.nil_append]
      apply Text.stripComments_eq_self_of_withoutBlanks
      rw [hopening, hreadOpening.stripComments_textOf, Lexeme.bare_append, Lexeme.textOf_append,
        Lexeme.textOf_append, Text.withoutBlanks_append, Text.withoutBlanks_append, ← hwritten,
        hfront, Text.withoutBlanks_append, Text.withoutBlanks_of_isBlankText hspace,
        List.append_nil]
      rfl
    · rw [hopening, hreadOpening.live_textOf, Lexeme.getLast?_flatMap_live, List.getLast?_concat]
    · rw [← hsame, hread.of_append_right.live_textOf, Piece.flatMap_live_bodyOf_true,
        List.getLast?_concat]

/-! ## Merged lists -/

/-- Whether all blocks that merging writes anew are rewritable. -/
def Readable (bs : List Block) : Prop :=
  ∀ g ∈ groups bs, g.others ≠ [] → g.merged.Rewritable

instance (bs : List Block) : Decidable (Readable bs) :=
  inferInstanceAs (Decidable (∀ g ∈ groups bs, g.others ≠ [] → g.merged.Rewritable))

theorem leaders_sublist (bs : List Block) : (leaders bs).Sublist bs := by
  have h := (List.filter_sublist (l := bs.zipIdx) (p := fun p => place bs p.1 p.2 == p.2)).map (·.1)
  rwa [List.zipIdx_map_fst] at h

theorem merged_mem_combine {bs : List Block} {g : Group} (hg : g ∈ groups bs) :
    g.merged ∈ combine bs := by
  fun_induction groups bs with
  | case1 => exact absurd hg List.not_mem_nil
  | case2 b rest hquery ih =>
    rw [combine, hquery]
    exact List.mem_cons_of_mem b (ih hg)
  | case3 b rest q hquery ih =>
    rw [combine, hquery]
    rcases List.mem_cons.1 hg with rfl | hg
    · exact List.mem_cons_self
    · exact List.mem_cons_of_mem _ (ih hg)

/-- A block of a merged list is one that was there before, or it stands alone. -/
theorem eq_or_standsAlone_of_leads {css : Text} (h : Readable (Block.segment css)) {b c : Block}
    (hlead : Leads (Block.segment css) b c) : c = b ∨ c.StandsAlone := by
  cases hquery : query? b with
  | none =>
    left
    simpa only [Leads, hquery] using hlead
  | some q =>
    obtain ⟨others, hmembers, rfl⟩ : ∃ others, membersOf q (Block.segment css) = b :: others ∧
        c = (Group.mk q b others).merged := by
      simpa only [Leads, hquery] using hlead
    by_cases hmany : others = []
    · left
      rw [hmany]
      rfl
    · right
      have hg : Group.mk q b others ∈ groups (Block.segment css) := mem_groups_iff.2 hmembers
      exact standsAlone_merged hg hmany (h _ hg hmany)

/-- **When a merged list is read again.**  What is written of it is read as the same list if and
only if the blocks that were written anew are rewritable. -/
theorem forall₂_agrees_segment_combine_iff (css : Text) :
    List.Forall₂ Block.Agrees (Block.segment (Block.serialize (combine (Block.segment css))))
      (combine (Block.segment css)) ↔ Readable (Block.segment css) := by
  constructor
  · intro hagrees g hg hmany
    obtain ⟨i, hi, hmerged⟩ := List.getElem_of_mem (merged_mem_combine hg)
    have hj := hi
    rw [← hagrees.length_eq] at hj
    have hread := hagrees.get hj hi
    rw [List.get_eq_getElem, List.get_eq_getElem, hmerged] at hread
    exact rewritable_of_agrees hg hmany (List.getElem_mem hj) hread
  · intro h
    exact @Block.forall₂_agrees_segment_serialize_of_standsAlone true css _ _ (leaders_sublist _)
      ((forall₂_leads_combine _).imp fun _ _ => eq_or_standsAlone_of_leads h)

end Media

end CssTrim
