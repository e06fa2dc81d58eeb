import CssTrim.Proofs.Block.Comments
import CssTrim.Proofs.Classify.Agree
import CssTrim.Proofs.Text.Recognizer

/-!
# Judging blocks without their comments

A judge looks for custom properties in the whole body of a block, comments
included.  It sees nothing else of comments: it says the same of a block and of
what is left of it without comments, where it finds custom properties in both or
in none of them.  There are three groups.

* Parts.  The body of a block is a part of its stylesheet, and what is nested in it
  is a part of its body.
* Rules.  `Block.forall₂_bares_rules` pairs the rules of a stylesheet with those
  that are left of them, and `Block.Bares.nested` goes from a pair of rules to what
  is nested in them.
* The judgement.  `classify_eq_of_bares` is the induction over nesting.  A rule
  that could tell custom properties in one of its nested rules from custom
  properties in a comment is kept for them anyway.
-/

namespace CssTrim

namespace Block

/-! ## Parts -/

theorem inner_infix (b : Block) : b.inner <:+: b.body := by
  have hopened : (if b.body.head? = some '\x7b' then b.body.tail else b.body) <:+: b.body := by
    split
    · exact (List.tail_suffix b.body).isInfix
    · exact List.infix_rfl
  have hlast : ∀ opened : Text, (if opened.getLast? = some '\x7d' ∧ b.malformed = false
      then opened.dropLast else opened) <:+: opened := by
    intro opened
    split
    · exact (List.dropLast_prefix opened).isInfix
    · exact List.infix_rfl
  exact (hlast _).trans hopened

theorem body_infix_source (n : Nat) (p : Piece) : (ofPiece n p).body <:+: (ofPiece n p).source := by
  cases p with
  | fragment source =>
    have htrim : Text.trim (Lexeme.textOf source) <:+: Lexeme.textOf source :=
      (Text.trimEnd_prefix _).isInfix.trans (Text.trimStart_suffix _).isInfix
    exact htrim
  | rule header inner closed =>
    rw [ofPiece, ofRule]
    split
    · exact (List.suffix_append _ _).isInfix
    · exact (List.suffix_append _ _).isInfix

theorem body_infix_of_mem_segment {css : Text} {b : Block} (hb : b ∈ segment css) :
    b.body <:+: css := by
  obtain ⟨tail, htail, -⟩ := exists_flatMap_source_segment css
  have hsource : b.source <:+: css := by
    obtain ⟨before, after, hsplit⟩ := List.append_of_mem hb
    rw [← htail, hsplit, List.flatMap_append, List.flatMap_cons]
    exact ⟨before.flatMap source, after.flatMap source ++ tail, by simp⟩
  obtain ⟨p, -, n, rfl⟩ := mem_ofPieces hb
  exact (body_infix_source n p).trans hsource

/-- What is nested in a block is a part of its body. -/
theorem body_infix_of_mem_innerRules {b i : Block} (hi : i ∈ b.innerRules) : i.body <:+: b.body :=
  (body_infix_of_mem_segment (mem_segment_of_mem_segmentInner (mem_innerRules.1 hi).1)).trans
    b.inner_infix

/-! ## Rules -/

/-- A rule does not start as a comment does. -/
theorem passthrough_of_isComment {css : Text} {b : Block} (hb : b ∈ segment css)
    (h : b.isComment = true) : b.passthrough = true := by
  obtain ⟨p, hp, n, rfl⟩ := mem_ofPieces hb
  obtain ⟨lead, core, rfl, hlead, hcore, hpart⟩ := (Piece.cut_ofLexemes _).mem hp
  have hread := (Lexeme.isReading_lexemes css).of_part hpart
  rw [isComment_ofPiece, Piece.isComment_behind hlead] at h
  cases core with
  | fragment => rfl
  | rule header inner closed =>
    have hopens : Piece.Opens (header ++ [.plain '\x7b']) := by
      rcases hcore with hcore | hcore
      · cases hcore with
        | rule hopens _ _ _ => exact hopens
      · cases hcore with
        | rule hopens _ _ => exact hopens
    rw [Piece.isComment_of_opens hread (Piece.opens_lexemes_rule hopens)] at h
    exact Bool.noConfusion h

/-- **The rules that are left of a stylesheet** are its rules, one by one and without the comments
in them. -/
theorem forall₂_bares_rules (css : Text)
    (h : Text.stripComments (Text.stripComments css) = Text.stripComments css) :
    List.Forall₂ Bares ((segmentWith true css).filter (!·.passthrough))
      ((segmentWith false css).filter (!·.passthrough)) := by
  have hrules : ((segmentWith true css).filter (!·.isComment)).filter (!·.passthrough) =
      (segmentWith true css).filter (!·.passthrough) := by
    rw [List.filter_filter]
    refine List.filter_congr fun b hb => ?_
    cases hcomment : b.isComment with
    | false => rw [Bool.not_false, Bool.and_true]
    | true =>
      rw [passthrough_of_isComment hb hcomment]
      rfl
  rw [← hrules]
  refine List.rel_filter ?_ (forall₂_bares_stripComments h)
  intro b c hbc
  simp only [hbc.passthrough]

/-- The lexemes of the body of a well-formed rule are a part of the stylesheet. -/
theorem exists_part_of_mem_segment {css : Text} {b : Block} (hb : b ∈ segment css)
    (hrule : b.passthrough = false) (hwell : b.malformed = false) :
    ∃ ls, b.body = '\x7b' :: (Lexeme.textOf ls ++ ['\x7d']) ∧
      .plain '\x7b' :: (ls ++ [.plain '\x7d']) <:+: Text.lexemes css := by
  obtain ⟨p, hp, n, rfl⟩ := mem_ofPieces hb
  obtain ⟨lead, core, rfl, -, -, hpart⟩ := (Piece.cut_ofLexemes _).mem hp
  cases core with
  | fragment => exact Bool.noConfusion hrule
  | rule header inner closed =>
    obtain ⟨-, hmalformed, hbody⟩ := views_ofPiece_rule n (lead ++ header) inner closed
    rw [Piece.behind] at hwell ⊢
    rw [hmalformed] at hwell
    obtain rfl : closed = true := by simpa using hwell
    refine ⟨inner, ?_, ?_⟩
    · rw [hbody]
      simp [Piece.bodyOf, Lexeme.text]
    · refine List.IsInfix.trans ?_ hpart
      exact ⟨header, [], by simp [Piece.lexemes]⟩

/-- What is left of a well-formed rule holds what is left of its inner text. -/
theorem Bares.nested {css : Text} {b c : Block} (hb : b ∈ segment css)
    (hclean : Text.stripComments (Text.stripComments css) = Text.stripComments css)
    (hrule : b.passthrough = false) (hwell : b.malformed = false) (h : b.Bares c) :
    Text.stripComments (Text.stripComments b.inner) = Text.stripComments b.inner ∧
      b.segmentInner = segmentWith true b.inner ∧ c.segmentInner = segmentWith false b.inner := by
  obtain ⟨ls, hbody, hpart⟩ := exists_part_of_mem_segment hb hrule hwell
  have hread := (Lexeme.isReading_lexemes css).of_part hpart
  have hopen : (Lexeme.plain '\x7b').isComment = false := rfl
  have hclose : (Lexeme.plain '\x7d').isComment = false := rfl
  have hbare : Lexeme.bare (.plain '\x7b' :: (ls ++ [.plain '\x7d'])) =
      .plain '\x7b' :: (Lexeme.bare ls ++ [.plain '\x7d']) := by
    rw [Lexeme.bare_cons hopen, Lexeme.bare_append, Lexeme.bare_cons hclose, Lexeme.bare_nil]
  have hinner : b.inner = Lexeme.textOf ls := inner_of_body hbody hwell
  have hlexemes : Lexeme.IsReading ls :=
    (Lexeme.isReading_cons_iff.1 hread).2.of_append_left
  have hstripped : Text.stripComments b.inner = Lexeme.textOf (Lexeme.bare ls) := by
    rw [hinner, hlexemes.stripComments_textOf]
  have hbody' : c.body = '\x7b' :: (Text.stripComments b.inner ++ ['\x7d']) := by
    have htext : b.body = Lexeme.textOf (.plain '\x7b' :: (ls ++ [.plain '\x7d'])) := by
      rw [hbody]
      simp [Lexeme.text]
    have hcbody := h.body
    rw [hrule, if_neg Bool.false_ne_true, htext, hread.stripComments_textOf, hbare] at hcbody
    rw [hcbody, hstripped]
    simp [Lexeme.text]
  refine ⟨?_, ?_, ?_⟩
  · -- what is left of the rule is a part of what is left of the stylesheet, and read as it is there
    have hleft : Lexeme.bare ls <:+: Lexeme.bare (Text.lexemes css) := by
      refine List.IsInfix.trans ?_ (hpart.filter _)
      exact ⟨[.plain '\x7b'], [.plain '\x7d'], by
        simpa [Lexeme.bare] using hbare.symm⟩
    rw [← Text.lexemes_stripComments hclean] at hleft
    have hagain := ((Lexeme.isReading_lexemes _).of_part hleft).stripComments_textOf
    rw [hstripped, hagain, Lexeme.bare_bare]
  · rw [hinner]
    exact segmentInner_of_body hbody hrule hwell
  · exact segmentInner_of_body hbody' (h.passthrough.trans hrule) (h.malformed.trans hwell)

/-- What is left of a well-formed rule holds the rules that are left of those nested in it. -/
theorem Bares.forall₂_innerRules {css : Text} {b c : Block} (hb : b ∈ segment css)
    (hclean : Text.stripComments (Text.stripComments css) = Text.stripComments css)
    (hrule : b.passthrough = false) (hwell : b.malformed = false) (h : b.Bares c) :
    List.Forall₂ Bares b.innerRules c.innerRules := by
  obtain ⟨hinner, hb, hc⟩ := h.nested hb hclean hrule hwell
  rw [innerRules, innerRules, hb, hc]
  exact forall₂_bares_rules b.inner hinner

theorem Bares.isAtRule {b c : Block} (h : b.Bares c) : c.isAtRule = b.isAtRule := by
  unfold Block.isAtRule
  rw [h.keyword]

theorem Bares.header {b c : Block} (h : b.Bares c) : c.header = b.header := by
  unfold Block.header
  rw [h.passthrough, h.isAtRule, h.keyword, h.condition, h.selectors]

theorem map_header_of_forall₂_bares {bs cs : List Block} (h : List.Forall₂ Bares bs cs) :
    bs.map header = cs.map header := by
  induction h with
  | nil => rfl
  | cons hbc _ ih => rw [List.map_cons, List.map_cons, hbc.header, ih]

end Block

open Block (Bares)

/-! ## The judgement -/

namespace Judge

/-- Whether a judge finds custom properties in both of two blocks or in none, if it looks for
them. -/
def FindsAlike (j : Judge) (b c : Block) : Prop :=
  j.policy.keepVariables = true → Text.occursIn ['-', '-'] c.body = Text.occursIn ['-', '-'] b.body

variable {j : Judge} {b c : Block}

theorem verdict_eq_of_bares (h : b.Bares c) (hfinds : j.FindsAlike b c) (s : Text) :
    j.verdict c s = j.verdict b s := by
  have hused : j.isUsed c s = j.isUsed b s := by
    unfold isUsed
    rw [h.isAtRule]
  have hholds : ∀ q, (j.policy.allows q && q.holds c s) = (j.policy.allows q && q.holds b s) := by
    intro q
    cases q with
    | properties =>
      cases hvariables : j.policy.keepVariables with
      | false => rw [Policy.allows, hvariables, Bool.false_and, Bool.false_and]
      | true => rw [Predicate.holds, Predicate.holds, hfinds hvariables]
    | keyframes | fontFace | media => rw [Predicate.holds, Predicate.holds, h.kind]
    | interactive | root => rfl
  unfold verdict Policy.preservedBy
  simp only [hused, hholds]

theorem direct_eq_of_bares (h : b.Bares c) (hfinds : j.FindsAlike b c) :
    j.direct c = j.direct b := by
  have halternatives : c.alternatives = b.alternatives := by
    unfold Block.alternatives
    rw [h.isAtRule, h.header, h.selectors]
  unfold direct
  simp only [verdict_eq_of_bares h hfinds, halternatives]

theorem mayHoldRules_eq_of_bares (j : Judge) (h : b.Bares c) :
    j.mayHoldRules c = j.mayHoldRules b := by
  unfold mayHoldRules Block.isContainer
  rw [h.isAtRule, h.keyword, h.kind, h.header]

/-- A rule that may hold rules is kept by itself for the custom properties in its body. -/
theorem keep_direct_of_occursIn (hmay : j.mayHoldRules b = true)
    (hvariables : j.policy.keepVariables = true)
    (hoccurs : Text.occursIn ['-', '-'] b.body = true) : (j.direct b).keep = true := by
  rw [mayHoldRules, Bool.and_eq_true, Bool.and_eq_true, Bool.not_eq_true'] at hmay
  have hheader : b.header ∈ b.alternatives := by
    rw [Block.alternatives, if_pos hmay.1.1]
    exact List.mem_singleton_self _
  have hholds : Predicate.properties.holds b b.header = true := by
    rw [Predicate.holds, hoccurs, Bool.or_true]
  exact keep_direct_iff.2
    ⟨b.header, hheader,
      isKept_verdict_iff.2 (.inr ⟨hmay.2, .inr ⟨.properties, hvariables, hholds⟩⟩)⟩

theorem keepsNested_eq_of_forall₂
    (h : List.Forall₂ (fun i k => k.malformed = i.malformed ∧ j.classify k = j.classify i)
      b.innerRules c.innerRules) : j.keepsNested c = j.keepsNested b := by
  unfold keepsNested
  generalize b.innerRules = is at h
  generalize c.innerRules = ks at h
  have hany : (ks.any fun k => k.malformed || (j.classify k).keep) =
      is.any fun i => i.malformed || (j.classify i).keep := by
    induction h with
    | nil => rfl
    | cons hik _ ih => rw [List.any_cons, List.any_cons, hik.1, hik.2, ih]
  rw [hany]
  cases h <;> rfl

/-- A rule that is not kept by itself, but may hold rules, has no custom properties for a judge to
find, and so have the rules that are nested in it. -/
theorem findsAlike_of_mem_innerRules (hfinds : j.FindsAlike b c) (hmay : j.mayHoldRules b = true)
    (hdirect : (j.direct b).keep = false) {i k : Block} (hi : i ∈ b.innerRules)
    (hk : k ∈ c.innerRules) : j.FindsAlike i k := by
  intro hvariables
  have hb : Text.occursIn ['-', '-'] b.body = false := by
    by_contra hoccurs
    rw [Bool.not_eq_false] at hoccurs
    rw [keep_direct_of_occursIn hmay hvariables hoccurs] at hdirect
    exact Bool.noConfusion hdirect
  have hc : Text.occursIn ['-', '-'] c.body = false := (hfinds hvariables).trans hb
  rw [Text.occursIn_eq_false_of_infix (Block.body_infix_of_mem_innerRules hi) hb,
    Text.occursIn_eq_false_of_infix (Block.body_infix_of_mem_innerRules hk) hc]

/-- **Comments are not judged.**  A judge says the same of a well-formed rule and of what is left of
it, if it finds custom properties in both or in none.  The induction is over the nested rules: it
only gets to them where there are no custom properties in the whole body. -/
theorem classify_eq_of_bares {css : Text} (hb : b ∈ Block.segment css)
    (hclean : Text.stripComments (Text.stripComments css) = Text.stripComments css)
    (hrule : b.passthrough = false) (hwell : b.malformed = false) (h : b.Bares c)
    (hfinds : j.FindsAlike b c) : j.classify c = j.classify b := by
  induction b using Block.innerRules_induction generalizing css c with
  | step b ih =>
    rw [classify_eq, classify_eq, direct_eq_of_bares h hfinds, mayHoldRules_eq_of_bares j h]
    split
    · rfl
    · rename_i hown
      rw [Bool.or_eq_true, not_or, Bool.not_eq_true', Bool.not_eq_false, Bool.not_eq_true] at hown
      obtain ⟨hinner, -, -⟩ := h.nested hb hclean hrule hwell
      have hrules := h.forall₂_innerRules hb hclean hrule hwell
      have hnested : j.keepsNested c = j.keepsNested b := by
        refine keepsNested_eq_of_forall₂ (List.forall₂_iff_get.2 ⟨hrules.length_eq, ?_⟩)
        intro n hn hn'
        have hik := hrules.get hn hn'
        have hi := List.get_mem b.innerRules ⟨n, hn⟩
        have hk := List.get_mem c.innerRules ⟨n, hn'⟩
        generalize b.innerRules.get ⟨n, hn⟩ = i at hik hi
        generalize c.innerRules.get ⟨n, hn'⟩ = k at hik hk
        obtain ⟨hmem, hirule⟩ := Block.mem_innerRules.1 hi
        have hiwell := Block.malformed_of_mem_segmentInner hb hrule hwell hmem
        have hifinds := findsAlike_of_mem_innerRules hfinds hown.2 hown.1 hi hk
        exact ⟨hik.malformed, ih i hi (Block.mem_segment_of_mem_segmentInner hmem) hinner hirule
          hiwell hik hifinds⟩
      rw [hnested]

/-- What becomes of a rule in a list does not depend on its comments either. -/
theorem decide_eq_of_bares {css : Text} (hb : b ∈ Block.segment css)
    (hclean : Text.stripComments (Text.stripComments css) = Text.stripComments css)
    (hrule : b.passthrough = false) (h : b.Bares c) (hfinds : j.FindsAlike b c) :
    j.decide c = j.decide b := by
  rw [decide, decide, h.passthrough, h.malformed]
  split
  · rfl
  · rename_i hlisted
    rw [hrule, Bool.false_or, Bool.not_eq_true] at hlisted
    exact classify_eq_of_bares hb hclean hrule hlisted h hfinds

end Judge

end CssTrim
