import CssTrim.Proofs.Lexeme.Comments

/-!
# Blocks without their comments

Comments can be taken out of a stylesheet before it is cut into blocks, or out of
its blocks afterwards.  Both give the same blocks, provided that what is left of
the stylesheet has no comments.  There are four groups.

* Braces and brackets.  A comment opens and closes nothing, so that headers and
  bodies end where they did.
* Pieces.  `Piece.bare` takes the comments out of a piece.  A whole piece that is
  no comment stays whole.
* Cuts.  `Piece.forall₂_shifted_bare` is the induction over the cut: the blanks in
  front of a comment come to stand in front of the next piece, and nothing else
  moves.
* Blocks.  `Block.Bares` is what a block has in common with the one that is left
  of it, and `forall₂_bares_segment` says it of a whole stylesheet.
-/

namespace CssTrim

open Lexeme (level Nested)

/-! ## Braces and brackets -/

namespace Lexeme

theorem brace_of_isComment {l : Lexeme} (hl : l.isComment = true) : brace l = 0 := by
  cases l with
  | comment => rfl
  | plain | escape | quoted => exact Bool.noConfusion hl

theorem level_bare (ls : List Lexeme) : level (bare ls) = level ls := by
  induction ls with
  | nil => rfl
  | cons l ls ih =>
    cases hl : l.isComment with
    | true => rw [bare_cons_of_isComment hl, ih, level_cons, brace_of_isComment hl, Int.zero_add]
    | false => rw [bare_cons hl, level_cons, level_cons, ih]

theorem Nested.bare {depth : Int} {ls : List Lexeme} (h : Nested depth ls) :
    Nested depth (bare ls) := by
  induction ls generalizing depth with
  | nil => exact h
  | cons l ls ih =>
    obtain ⟨hdepth, hls⟩ := nested_cons_iff.1 h
    cases hl : l.isComment with
    | true =>
      rw [brace_of_isComment hl, Int.add_zero] at hls
      rw [bare_cons_of_isComment hl]
      exact ih hls
    | false =>
      rw [bare_cons hl]
      exact nested_cons_iff.2 ⟨hdepth, ih hls⟩

end Lexeme

namespace Piece

theorem bracketsAfter_of_isComment {l : Lexeme} (hl : l.isComment = true) (depth : Nat) :
    bracketsAfter depth l = depth := by
  cases l with
  | comment => rfl
  | plain | escape | quoted => exact Bool.noConfusion hl

theorem isComment_of_endsHeader {depth : Nat} {l : Lexeme} (h : endsHeader depth l) :
    l.isComment = false := by
  rcases endsHeader_iff.1 h with rfl | rfl | ⟨rfl, _⟩
  all_goals rfl

theorem brackets_bare (depth : Nat) (ls : List Lexeme) :
    brackets depth (Lexeme.bare ls) = brackets depth ls := by
  induction ls generalizing depth with
  | nil => rfl
  | cons l ls ih =>
    cases hl : l.isComment with
    | true =>
      rw [Lexeme.bare_cons_of_isComment hl, ih, brackets, brackets, List.foldl_cons,
        bracketsAfter_of_isComment hl]
    | false =>
      rw [Lexeme.bare_cons hl]
      exact ih (bracketsAfter depth l)

theorem noHeaderEnd_bare {depth : Nat} {ls : List Lexeme} (h : NoHeaderEnd depth ls) :
    NoHeaderEnd depth (Lexeme.bare ls) := by
  induction ls generalizing depth with
  | nil => exact h
  | cons l ls ih =>
    obtain ⟨hl, hls⟩ := noHeaderEnd_cons_iff.1 h
    cases hcomment : l.isComment with
    | true =>
      rw [bracketsAfter_of_isComment hcomment] at hls
      rw [Lexeme.bare_cons_of_isComment hcomment]
      exact ih hls
    | false =>
      rw [Lexeme.bare_cons hcomment]
      exact noHeaderEnd_cons_iff.2 ⟨hl, ih hls⟩

theorem opens_bare {ls : List Lexeme} (h : Opens ls) : Opens (Lexeme.bare ls) := by
  obtain ⟨first, rest, rfl, hblank, hcomment⟩ := h
  exact ⟨first, Lexeme.bare rest, Lexeme.bare_cons hcomment rest, hblank, hcomment⟩

/-! ## Pieces -/

/-- The piece without the comments in it. -/
def bare : Piece → Piece
  | fragment source => fragment (Lexeme.bare source)
  | rule header inner closed => rule (Lexeme.bare header) (Lexeme.bare inner) closed

theorem lexemes_bare (p : Piece) : p.bare.lexemes = Lexeme.bare p.lexemes := by
  cases p with
  | fragment => rfl
  | rule header inner closed =>
    have hopen : (Lexeme.plain '{').isComment = false := rfl
    have hclose : Lexeme.bare (if closed then [.plain '}'] else []) =
        if closed then [.plain '}'] else [] := by
      cases closed <;> rfl
    rw [lexemes, Lexeme.bare_append, Lexeme.bare_append, Lexeme.bare_cons hopen, hclose]
    rfl

theorem bare_behind {lead : List Lexeme} (hlead : lead.all Lexeme.isBlank) (p : Piece) :
    (p.behind lead).bare = p.bare.behind lead := by
  cases p <;> simp [behind, bare, Lexeme.bare_of_blanks hlead]

/-- Whether the text of a piece starts as a comment does. -/
def isComment (p : Piece) : Bool := Text.startsWith p.text "/*".toList

/-- A piece starts as a comment does when its first lexeme that is no blank is one. -/
theorem isComment_eq {p : Piece} {first : Lexeme} {rest : List Lexeme}
    (hread : Lexeme.IsReading p.lexemes) (hlexemes : p.lexemes = first :: rest)
    (hblank : first.isBlank = false) : p.isComment = first.isComment := by
  rw [hlexemes] at hread
  have htext : p.text = Text.trimEnd (Lexeme.textOf (first :: rest)) := by
    rw [text, hlexemes, hread.trim_textOf_cons hblank]
  rw [isComment, htext, Text.startsWith, Bool.eq_iff_iff, List.isPrefixOf_iff_prefix]
  constructor
  · intro h
    obtain ⟨more, hmore⟩ := h.trans (Text.trimEnd_prefix _)
    have hfirst := hread
    rw [Lexeme.IsReading, ← hmore] at hfirst
    have hcomment := (Text.lexemes_comment more).symm.trans hfirst
    rw [← (List.cons.inj hcomment).1]
    rfl
  · intro h
    cases first with
    | comment body =>
      have hsolid : Text.isBlank '/' = false ∧ Text.isBlank '*' = false := by decide
      refine ⟨Text.trimEnd (body ++ Lexeme.textOf rest), ?_⟩
      rw [Lexeme.textOf_cons, Lexeme.text, List.cons_append, List.cons_append,
        Text.trimEnd_cons hsolid.1, Text.trimEnd_cons hsolid.2]
      rfl
    | plain | escape | quoted => exact Bool.noConfusion h

theorem isComment_behind {lead : List Lexeme} (hlead : lead.all Lexeme.isBlank) (p : Piece) :
    (p.behind lead).isComment = p.isComment := by
  rw [isComment, text_behind hlead, isComment]

theorem isComment_of_opens {p : Piece} (hread : Lexeme.IsReading p.lexemes)
    (hopens : Opens p.lexemes) : p.isComment = false := by
  obtain ⟨first, rest, hlexemes, hblank, hcomment⟩ := hopens
  rw [isComment_eq hread hlexemes hblank, hcomment]

theorem opens_lexemes_rule {header inner : List Lexeme} {closed : Bool}
    (h : Opens (header ++ [.plain '{'])) : Opens (rule header inner closed).lexemes := by
  rw [lexemes, List.append_assoc, List.cons_append]
  exact opens_append_cons_iff.2 h

/-- A whole piece is a comment, or it is whole without the comments in it. -/
theorem Whole.isComment_or_bare {p : Piece} (hp : Whole p) (hread : Lexeme.IsReading p.lexemes) :
    (p.isComment = true ∧ Lexeme.bare p.lexemes = []) ∨ (p.isComment = false ∧ Whole p.bare) := by
  cases hp with
  | comment body => exact .inl ⟨isComment_eq hread rfl rfl, rfl⟩
  | @statement front stop hopens hfront hstop hne =>
    have hlast : stop.isComment = false := isComment_of_endsHeader hstop
    have hbare : Lexeme.bare (front ++ [stop]) = Lexeme.bare front ++ [stop] := by
      rw [Lexeme.bare_append, Lexeme.bare_cons hlast, Lexeme.bare_nil]
    have hend : endsHeader (brackets 0 (Lexeme.bare front)) stop := by
      rw [brackets_bare]
      exact hstop
    have hfirst := opens_bare hopens
    rw [hbare] at hfirst
    refine .inr ⟨isComment_of_opens hread hopens, ?_⟩
    rw [bare, hbare]
    exact .statement hfirst (noHeaderEnd_bare hfront) hend hne
  | @rule header inner hopens hheader hinner hlevel =>
    have hfirst := opens_bare hopens
    rw [Lexeme.bare_append] at hfirst
    refine .inr ⟨isComment_of_opens hread (opens_lexemes_rule hopens), ?_⟩
    exact .rule hfirst (noHeaderEnd_bare hheader) hinner.bare
      ((Lexeme.level_bare inner).trans hlevel)

/-- An unfinished piece is unfinished without the comments in it. -/
theorem Unfinished.bare {p : Piece} (hp : Unfinished p) (hread : Lexeme.IsReading p.lexemes) :
    p.isComment = false ∧ Unfinished p.bare := by
  cases hp with
  | statement hopens hfront =>
    exact ⟨isComment_of_opens hread hopens,
      .statement (opens_bare hopens) (noHeaderEnd_bare hfront)⟩
  | @rule header inner hopens hheader hinner =>
    have hfirst := opens_bare hopens
    rw [Lexeme.bare_append] at hfirst
    exact ⟨isComment_of_opens hread (opens_lexemes_rule hopens),
      .rule hfirst (noHeaderEnd_bare hheader) hinner.bare⟩

/-! ## Cuts -/

/-- Whether a piece is another one behind blanks. -/
def Shifted (p q : Piece) : Prop := ∃ lead, lead.all Lexeme.isBlank ∧ p = q.behind lead

theorem Shifted.refl (p : Piece) : p.Shifted p := ⟨[], rfl, (behind_nil p).symm⟩

theorem Shifted.behind {p q : Piece} (h : p.Shifted q) {lead : List Lexeme}
    (hlead : lead.all Lexeme.isBlank) : (p.behind lead).Shifted q := by
  obtain ⟨more, hmore, rfl⟩ := h
  refine ⟨lead ++ more, ?_, (behind_append lead more q).symm⟩
  rw [List.all_append, hlead, hmore]
  rfl

/-- Blanks in front of a sequence shift its first piece. -/
theorem forall₂_shifted_blank_append {ls lead : List Lexeme} {qs : List Piece}
    (hlead : lead.all Lexeme.isBlank) (h : List.Forall₂ Shifted (ofLexemes ls) qs) :
    List.Forall₂ Shifted (ofLexemes (lead ++ ls)) qs := by
  induction lead with
  | nil => exact h
  | cons w lead ih =>
    rw [List.all_cons, Bool.and_eq_true] at hlead
    have hrest := ih hlead.2
    have hone : [w].all Lexeme.isBlank := by rw [List.all_cons, hlead.1]; rfl
    rw [List.cons_append, ((cut_ofLexemes (lead ++ ls)).cons_blank hlead.1).ofLexemes_eq]
    generalize ofLexemes (lead ++ ls) = ps at hrest
    cases hrest with
    | nil => exact .nil
    | cons hpq htail => exact .cons (hpq.behind hone) htail

/-- **A stylesheet without its comments** is cut into its pieces that are no comments, each without
the comments in it.  The induction is on the cut. -/
theorem forall₂_shifted_bare {ls : List Lexeme} {ps : List Piece} (hcut : Cut ls ps)
    (hread : Lexeme.IsReading ls) :
    List.Forall₂ Shifted (ofLexemes (Lexeme.bare ls)) ((ps.filter (!·.isComment)).map bare) := by
  induction hcut with
  | blanks h =>
    rw [Lexeme.bare_of_blanks h, ofLexemes_of_blanks h]
    exact .nil
  | @whole lead rest p ps hlead hp hrest ih =>
    have hcore : Lexeme.IsReading (p.lexemes ++ rest) := hread.of_append_right
    have htail := ih hcore.of_append_right
    rw [Lexeme.bare_append, Lexeme.bare_append, Lexeme.bare_of_blanks hlead, List.filter_cons,
      isComment_behind hlead]
    rcases hp.isComment_or_bare hcore.of_append_left with ⟨hcomment, hnone⟩ | ⟨hcomment, hbare⟩
    · rw [hcomment, hnone, List.nil_append]
      exact forall₂_shifted_blank_append hlead htail
    · rw [hcomment, ← lexemes_bare, hbare.ofLexemes_append hlead]
      refine .cons ?_ htail
      rw [bare_behind hlead]
      exact Shifted.refl _
  | @unfinished lead p hlead hp =>
    obtain ⟨hcomment, hbare⟩ := hp.bare hread.of_append_right
    rw [Lexeme.bare_append, Lexeme.bare_of_blanks hlead, ← lexemes_bare, hbare.ofLexemes_eq hlead,
      List.filter_cons, isComment_behind hlead, hcomment]
    refine .cons ?_ .nil
    rw [bare_behind hlead]
    exact Shifted.refl _

/-- The pieces of a reading are readings. -/
theorem isReading_of_mem_ofLexemes {ls : List Lexeme} (hread : Lexeme.IsReading ls) {p : Piece}
    (hp : p ∈ ofLexemes ls) : Lexeme.IsReading p.lexemes := by
  obtain ⟨tail, htail, -⟩ := ofLexemes_append ls
  obtain ⟨before, after, hsplit⟩ := List.append_of_mem hp
  rw [hsplit, List.flatMap_append, List.flatMap_cons, List.append_assoc, List.append_assoc] at htail
  rw [← htail] at hread
  exact hread.of_append_right.of_append_left

end Piece

/-! ## Blocks -/

namespace Block

/-- Whether the text of a block starts as a comment does. -/
def isComment (b : Block) : Bool := Text.startsWith b.text "/*".toList

theorem isComment_ofPiece (order : Nat) (p : Piece) :
    (ofPiece order p).isComment = p.isComment := by
  rw [isComment, text_ofPiece, Piece.isComment]

/-- Whether a block is another one without the comments in it, wherever they stand. -/
structure Bares (b c : Block) : Prop where
  selectors : c.selectors = b.selectors
  keyword : c.keyword = b.keyword
  kind : c.kind = b.kind
  condition : c.condition = b.condition
  passthrough : c.passthrough = b.passthrough
  malformed : c.malformed = b.malformed
  /-- A fragment has no blanks around it. -/
  body : c.body =
    if b.passthrough then Text.trim (Text.stripComments b.body) else Text.stripComments b.body

/-- What is left of a fragment. -/
theorem bares_fragment {source lead : List Lexeme} (hread : Lexeme.IsReading source)
    (hlead : lead.all Lexeme.isBlank) (m n : Nat) :
    (ofFragment m source).Bares (ofFragment n (lead ++ Lexeme.bare source)) := by
  refine ⟨rfl, rfl, rfl, rfl, rfl, rfl, ?_⟩
  show Text.trim (Lexeme.textOf (lead ++ Lexeme.bare source)) =
    Text.trim (Text.stripComments (Text.trim (Lexeme.textOf source)))
  rw [Text.trim_stripComments_trim, hread.stripComments_textOf, Lexeme.textOf_append,
    Text.trim_append_of_isBlankText (Lexeme.isBlankText_textOf hlead)]

/-- What is left of a rule. -/
theorem bares_rule {header inner lead : List Lexeme} {closed : Bool}
    (hread : Lexeme.IsReading (Piece.rule header inner closed).lexemes)
    (hlead : lead.all Lexeme.isBlank) (m n : Nat) :
    (ofRule m header inner closed).Bares
      (ofRule n (lead ++ Lexeme.bare header) (Lexeme.bare inner) closed) := by
  have hheader : Text.trim (Lexeme.textOf ((lead ++ Lexeme.bare header).filter (!·.isComment))) =
      Text.trim (Lexeme.textOf (header.filter (!·.isComment))) := by
    show Text.trim (Lexeme.textOf (Lexeme.bare (lead ++ Lexeme.bare header))) = _
    rw [Lexeme.bare_append, Lexeme.bare_bare, Lexeme.bare_of_blanks hlead, Lexeme.textOf_append,
      Text.trim_append_of_isBlankText (Lexeme.isBlankText_textOf hlead), Lexeme.bare]
  have hbody : Text.stripComments
      ('{' :: Lexeme.textOf inner ++ (if closed then ['}'] else [])) =
        '{' :: Lexeme.textOf (Lexeme.bare inner) ++ (if closed then ['}'] else []) := by
    rw [Piece.lexemes, List.append_assoc, List.cons_append] at hread
    have hinner := hread.of_append_right.stripComments_textOf
    have hopen : (Lexeme.plain '{').isComment = false := rfl
    rw [Lexeme.bare_cons hopen, Lexeme.bare_append] at hinner
    cases closed <;> simpa [Lexeme.text, Lexeme.bare, Lexeme.isComment] using hinner
  unfold ofRule
  dsimp only
  rw [hheader]
  split
  · exact ⟨rfl, rfl, rfl, rfl, rfl, rfl, hbody.symm⟩
  · exact ⟨rfl, rfl, rfl, rfl, rfl, rfl, hbody.symm⟩

/-- What is left of the block of a piece. -/
theorem bares_ofPiece {p q : Piece} (hread : Lexeme.IsReading p.lexemes) (h : q.Shifted p.bare)
    (m n : Nat) : (ofPiece m p).Bares (ofPiece n q) := by
  obtain ⟨lead, hlead, rfl⟩ := h
  cases p with
  | fragment source => exact bares_fragment hread hlead m n
  | rule header inner closed => exact bares_rule hread hlead m n

/-- What is left of the blocks of pieces. -/
theorem forall₂_bares_ofPieces {ps qs : List Piece} {sub : List Block} (order : Nat)
    (h : List.Forall₂ Piece.Shifted qs (ps.map Piece.bare))
    (hread : ∀ p ∈ ps, Lexeme.IsReading p.lexemes)
    (hsub : List.Forall₂ (fun b p => ∃ n, b = ofPiece n p) sub ps) :
    List.Forall₂ Bares sub (ofPieces order qs) := by
  induction hsub generalizing order qs with
  | nil =>
    obtain rfl := List.forall₂_nil_right_iff.1 h
    exact .nil
  | @cons b p sub ps hbp _ ih =>
    obtain ⟨n, rfl⟩ := hbp
    obtain ⟨q, qs, hpq, hrest, rfl⟩ := List.forall₂_cons_right_iff.1 h
    exact .cons (bares_ofPiece (hread p List.mem_cons_self) hpq n order)
      (ih (order + 1) hrest fun r hr => hread r (List.mem_cons_of_mem p hr))

/-- The blocks of pieces, without those that start as comments do. -/
theorem forall₂_filter_ofPieces (order : Nat) (ps : List Piece) :
    List.Forall₂ (fun b p => ∃ n, b = ofPiece n p) ((ofPieces order ps).filter (!·.isComment))
      (ps.filter (!·.isComment)) := by
  refine List.rel_filter ?_ (forall₂_ofPieces order ps)
  rintro b p ⟨n, rfl⟩
  simp only [isComment_ofPiece]

/-- The blocks of what is left of a stylesheet are its own, without the comments in them. -/
theorem forall₂_bares_stripComments {css : Text}
    (h : Text.stripComments (Text.stripComments css) = Text.stripComments css) :
    List.Forall₂ Bares ((segment css).filter (!·.isComment)) (segment (Text.stripComments css)) := by
  have hread := Lexeme.isReading_lexemes css
  have hpieces := Piece.forall₂_shifted_bare (Piece.cut_ofLexemes (Text.lexemes css)) hread
  rw [← Text.lexemes_stripComments h] at hpieces
  exact forall₂_bares_ofPieces 0 hpieces
    (fun p hp => Piece.isReading_of_mem_ofLexemes hread (List.mem_of_mem_filter hp))
    (forall₂_filter_ofPieces 0 (Piece.ofLexemes (Text.lexemes css)))

/-- **Comments can be taken out before a stylesheet is cut or afterwards.**  If what is left of a
stylesheet has no comments, its blocks are those of the stylesheet that do not start as comments
do, one by one and without the comments in them. -/
theorem forall₂_bares_segment (css : Text)
    (h : Text.stripComments (Text.stripComments css) = Text.stripComments css) :
    List.Forall₂ Bares ((segmentWith true css).filter (!·.isComment)) (segmentWith false css) := by
  have hblocks := forall₂_bares_stripComments h
  rwa [segmentWith, segmentWith, if_pos rfl, if_neg Bool.false_ne_true]

/-- A comment inside the selectors of a rule and one in front of a rule, an escape that takes the
slash of a comment, and a fragment that ends in a comment that nothing closes. -/
theorem forall₂_bares_segment_unclosed :
    let css := ".a/* b */.c /**/\x7b d: \"/*\" /**/ \x7d /* e */ .f\\/* \x7b\x7d @g /* h".toList
    Text.stripComments (Text.stripComments css) = Text.stripComments css ∧
      List.Forall₂ Bares ((segmentWith true css).filter (!·.isComment))
        (segmentWith false css) := by
  intro css
  have h : Text.stripComments (Text.stripComments css) = Text.stripComments css := by
    decide +kernel
  exact ⟨h, forall₂_bares_segment css h⟩

end Block

end CssTrim
