import CssTrim.Proofs.Block.Header
import CssTrim.Proofs.Selector.Mark
import CssTrim.Proofs.Stylesheet.Documents

/-!
# A mark at the front of a stylesheet

A stylesheet is read from its file with the mark that tells the encoding.  This
module says what the mark does to the blocks and to what is kept of them.

* Blocks.  `Block.segment_marked` says that only the first block has the mark.
  `Block.IsMarked` is what becomes of it if it is a rule: a style rule, whatever
  it was, with the same body and the mark in its selectors.
* Judging.  `Block.IsMarked.exists_alternatives` says that only the first
  alternative has the mark, and `Judge.keep_direct_marked_iff` that the rule is
  judged as before if it is, or if another alternative is kept.
* The run.  `Stylesheet.retains_marked` says exactly when the same blocks are
  kept.  `retains_marked_page` is a rule that is kept without the mark and
  dropped with it.
-/

namespace CssTrim

open Text (mark)

/-! ## Blocks -/

theorem Text.lexemes_marked (t : Text) : lexemes (mark :: t) = .plain mark :: lexemes t := by
  rw [lexemes_cons (fun h => absurd h (by decide)) (fun h => absurd h (by decide)), if_neg]
  decide

theorem Text.stripComments_marked (t : Text) :
    stripComments (mark :: t) = mark :: stripComments t := by
  rw [stripComments, lexemes_marked]
  rfl

namespace Piece

/-- A mark becomes part of the header of the first rule, with the blanks behind it. -/
theorem ofLexemes_marked {ls header inner : List Lexeme} {closed : Bool} {ps : List Piece}
    (h : ofLexemes ls = rule header inner closed :: ps) :
    ofLexemes (.plain mark :: ls) = rule (.plain mark :: header) inner closed :: ps := by
  have hends : endsHeader 0 (.plain mark) = false := by decide
  have hbrackets : bracketsAfter 0 (.plain mark) = 0 := by decide
  have hclear : ∀ {front lead : List Lexeme}, lead.all Lexeme.isBlank → NoHeaderEnd 0 front →
      NoHeaderEnd 0 (.plain mark :: (lead ++ front)) := by
    intro front lead hlead hfront
    rw [noHeaderEnd_cons_iff, hbrackets]
    exact ⟨hends, noHeaderEnd_blank_append hlead hfront⟩
  have hopens : ∀ ls : List Lexeme, Opens (.plain mark :: ls) :=
    fun ls => ⟨_, _, rfl, by decide, rfl⟩
  have hcut := cut_ofLexemes ls
  rw [h] at hcut
  generalize hps : rule header inner closed :: ps = qs at hcut
  cases hcut with
  | blanks => cases hps
  | @whole lead rest p qs hlead hp hrest =>
    obtain ⟨hpiece, rfl⟩ := List.cons.inj hps
    cases hp with
    | comment | statement => cases hpiece
    | rule _ hheader hinner hlevel =>
      obtain ⟨rfl, rfl, rfl⟩ := Piece.rule.inj hpiece
      have hwhole := Whole.rule (hopens _) (hclear hlead hheader) hinner hlevel
      have hfound := hwhole.ofLexemes_lexemes_append rest
      rw [hrest.ofLexemes_eq] at hfound
      rw [← hfound]
      simp [lexemes]
  | @unfinished lead p hlead hp =>
    obtain ⟨hpiece, rfl⟩ := List.cons.inj hps
    cases hp with
    | statement => cases hpiece
    | rule _ hheader hinner =>
      obtain ⟨rfl, rfl, rfl⟩ := Piece.rule.inj hpiece
      have hfound := ofLexemes_lexemes (.inr (.rule (hopens _) (hclear hlead hheader) hinner))
      rw [← hfound]
      simp [lexemes]

end Piece

namespace Block

/-- What becomes of a rule with a mark in front of it: a style rule, whatever it was. -/
structure IsMarked (b m : Block) : Prop where
  passthrough : m.passthrough = false
  isAtRule : m.isAtRule = false
  kind : m.kind = .none
  body : m.body = b.body
  malformed : m.malformed = b.malformed
  source : m.source = mark :: b.source
  /-- Behind the mark and the blanks that followed it stand the selectors of the style rule, or the
  keyword of the at-rule. -/
  selectors : ∃ w written, Text.isBlankText w ∧ m.selectors = mark :: (w ++ written) ∧
    (b.isAtRule = false → written = b.selectors) ∧
      (b.isAtRule = true → ∃ more, written = '@' :: (b.keyword ++ more))

theorem isMarked_ofRule (order : Nat) (header inner : List Lexeme) (closed : Bool) :
    (ofRule order header inner closed).IsMarked
      (ofRule order (.plain mark :: header) inner closed) := by
  have hblank : Text.isBlank mark = false := by decide
  have hwritten :
      Text.trim (Lexeme.textOf ((Lexeme.plain mark :: header).filter (!·.isComment))) =
        mark :: Text.trimEnd (Lexeme.textOf (header.filter (!·.isComment))) := by
    rw [List.filter_cons_of_pos rfl, Lexeme.textOf_cons, Lexeme.text, List.singleton_append,
      Text.trim_cons hblank, Text.trimEnd_cons hblank]
  have hkeyword : ∀ t, atKeyword? (mark :: t) = none := fun t => rfl
  obtain ⟨w, hw, htrim⟩ :=
    Text.exists_trimEnd_eq_append_trim (Lexeme.textOf (header.filter (!·.isComment)))
  have hmarked : ofRule order (.plain mark :: header) inner closed =
      { selectors := mark :: Text.trimEnd (Lexeme.textOf (header.filter (!·.isComment)))
        body := '\x7b' :: Lexeme.textOf inner ++ (if closed then ['\x7d'] else [])
        condition := mark :: Text.trimEnd (Lexeme.textOf (header.filter (!·.isComment)))
        order, malformed := !closed
        source := mark :: (Lexeme.textOf header ++
          '\x7b' :: Lexeme.textOf inner ++ (if closed then ['\x7d'] else [])) } := by
    rw [ofRule, hwritten, hkeyword]
    simp [Lexeme.text]
  rw [hmarked, ofRule]
  split
  · rename_i keyword more hfound
    obtain ⟨hkeyword, hwritten, -⟩ := atKeyword?_eq_some_iff.1 hfound
    refine ⟨rfl, rfl, rfl, rfl, rfl, by simp, w, _, hw, by rw [htrim], fun hstyle => ?_,
      fun _ => ⟨more, hwritten⟩⟩
    exact absurd (by simpa [isAtRule] using hstyle) hkeyword.ne_nil
  · exact ⟨rfl, rfl, rfl, rfl, rfl, by simp, w, _, hw, by rw [htrim], fun _ => rfl,
      fun hrule => absurd hrule Bool.false_ne_true⟩

/-- **Only the first block has the mark.**  If it is a rule, the others are the same as without the
mark. -/
theorem segment_marked {css : Text} {b : Block} {rest : List Block} (h : segment css = b :: rest)
    (hrule : b.passthrough = false) :
    ∃ m, segment (mark :: css) = m :: rest ∧ b.IsMarked m := by
  rw [segment] at h ⊢
  rw [Text.lexemes_marked]
  cases hpieces : Piece.ofLexemes (Text.lexemes css) with
  | nil =>
    rw [hpieces] at h
    cases h
  | cons p ps =>
    rw [hpieces, ofPieces] at h
    obtain ⟨rfl, rfl⟩ := List.cons.inj h
    cases p with
    | fragment => cases hrule
    | rule header inner closed =>
      rw [Piece.ofLexemes_marked hpieces]
      exact ⟨_, rfl, isMarked_ofRule 0 header inner closed⟩

end Block

/-- The blocks of a marked stylesheet, with or without its comments. -/
theorem Settings.blocksOf_marked {s : Settings} {css : Text} {b : Block} {rest : List Block}
    (h : s.blocksOf css = b :: rest) (hrule : b.passthrough = false) :
    ∃ m, s.blocksOf (mark :: css) = m :: rest ∧ b.IsMarked m := by
  rw [blocksOf, Block.segmentWith] at h ⊢
  cases hkeep : s.keepComments with
  | true =>
    rw [hkeep] at h
    exact Block.segment_marked h hrule
  | false =>
    rw [hkeep, if_neg Bool.false_ne_true] at h
    rw [if_neg Bool.false_ne_true, Text.stripComments_marked]
    exact Block.segment_marked h hrule

/-! ## Judging -/

/-- The alternatives of a marked style rule are those of the rule, but for the first one.  The mark
goes to the tag that the first one starts with, or is a tag of its own, and no predicate sees it. -/
theorem Block.IsMarked.exists_alternatives {b m : Block} (h : b.IsMarked m)
    (hstyle : b.isAtRule = false) (p : Policy) :
    ∃ first a others n tail, m.alternatives = first :: others ∧
      b.alternatives = [a].filter (!·.isEmpty) ++ others ∧
        p.preservedBy b first = p.preservedBy b a ∧
          Selector.simples first = .tag (mark :: n) :: tail ∧
            Selector.simples a = Selector.consNamed .tag n tail := by
  obtain ⟨w, written, hw, hselectors, hwritten, -⟩ := h.selectors
  rw [hwritten hstyle] at hselectors
  obtain ⟨gap, a, others, hgap, hwith, hwithout⟩ := Selector.alternatives_marked hw b.selectors
  obtain ⟨n, tail, hsimples, htail⟩ := Selector.simples_marked hgap a
  refine ⟨mark :: (gap ++ a), a, others, n, tail, ?_, ?_, Policy.preservedBy_marked hgap _ b a,
    hsimples, htail⟩
  · rw [alternatives, h.isAtRule, hselectors]
    exact hwith
  · rw [alternatives, hstyle]
    exact hwithout

namespace Judge

variable (j : Judge) {b m : Block}

/-- What a judge says of an alternative does not depend on which of both rules it belongs to. -/
theorem verdict_marked (h : b.IsMarked m) (hstyle : b.isAtRule = false) (hkind : b.kind = .none)
    (a : Text) : j.verdict m a = j.verdict b a := by
  have hholds : ∀ q : Predicate, q.holds m a = q.holds b a := by
    intro q
    unfold Predicate.holds
    rw [h.kind, hkind, h.body]
  unfold verdict isUsed Policy.preservedBy
  simp only [h.isAtRule, hstyle, hholds]

/-- A style rule and the marked one are judged alike if one of the alternatives that they share is
kept, or their first alternatives are judged alike. -/
theorem keep_direct_marked_iff (h : b.IsMarked m) (hstyle : b.isAtRule = false)
    (hkind : b.kind = .none) {first a : Text} {others : List Text}
    (hwith : m.alternatives = first :: others)
    (hwithout : b.alternatives = [a].filter (!·.isEmpty) ++ others) :
    (j.direct m).keep = (j.direct b).keep ↔
      (∃ x ∈ others, (j.verdict b x).isKept = true) ∨
        (j.verdict b first).isKept = (!a.isEmpty && (j.verdict b a).isKept) := by
  have hfirst : ([a].filter (!·.isEmpty)).any (fun x => (j.verdict b x).isKept) =
      (!a.isEmpty && (j.verdict b a).isKept) := by
    cases a <;> simp
  rw [direct, direct, hwith, hwithout, ← List.any_eq_true]
  simp only [j.verdict_marked h hstyle hkind]
  rw [List.any_cons, List.any_append, hfirst]
  cases others.any fun x => (j.verdict b x).isKept <;> simp

end Judge

/-! ## The run -/

namespace Stylesheet

/-- Marked and unmarked, the blocks that are kept are the same if the first one is. -/
theorem retains_eq_iff {s : CheckedSettings} {u : Usage} {css css' : Text} {b m : Block}
    {rest : List Block} (h : s.blocksOf css = b :: rest) (h' : s.blocksOf css' = m :: rest) :
    retains s u css' = retains s u css ↔
      (Judge.decide { usage := u, policy := s.policy } m).keep =
        (Judge.decide { usage := u, policy := s.policy } b).keep := by
  rw [retains, retains, h, h', Judge.kept_filter, Judge.kept_filter, List.map_cons, List.map_cons,
    List.cons.injEq, and_iff_left rfl]

/-- **What a mark changes.**  Let the first block of a stylesheet be a rule.  With a mark in front
of the stylesheet, this block becomes a style rule and the others stay.  The same blocks are kept
exactly when the rule is malformed, or is kept with the mark as it is without.  For a style rule
that is a question about its first alternative, unless another one is kept: the predicates say the
same of it, but it starts with another tag. -/
theorem retains_marked (s : CheckedSettings) (u : Usage) (css : Text) (b : Block)
    (rest : List Block) (h : s.blocksOf css = b :: rest) (hrule : b.passthrough = false) :
    let j : Judge := { usage := u, policy := s.policy }
    ∃ m, s.blocksOf (mark :: css) = m :: rest ∧ b.IsMarked m ∧
      (retains s u (mark :: css) = retains s u css ↔
        b.malformed = true ∨ (j.direct m).keep = (j.classify b).keep) ∧
      (b.isAtRule = false → ∃ first a others n tail,
        m.alternatives = first :: others ∧ b.alternatives = [a].filter (!·.isEmpty) ++ others ∧
          j.policy.preservedBy b first = j.policy.preservedBy b a ∧
            Selector.simples first = .tag (mark :: n) :: tail ∧
              Selector.simples a = Selector.consNamed .tag n tail ∧
                (retains s u (mark :: css) = retains s u css ↔
                  b.malformed = true ∨ (∃ x ∈ others, (j.verdict b x).isKept = true) ∨
                    (j.verdict b first).isKept = (!a.isEmpty && (j.verdict b a).isKept))) := by
  intro j
  obtain ⟨m, hm, hmarked⟩ := Settings.blocksOf_marked h hrule
  have hsame : retains s u (mark :: css) = retains s u css ↔
      b.malformed = true ∨ (j.direct m).keep = (j.classify b).keep := by
    rw [retains_eq_iff h hm, Judge.decide, Judge.decide, hmarked.passthrough, hrule,
      hmarked.malformed, Judge.classify_of_not_isAtRule _ hmarked.isAtRule]
    cases b.malformed <;> simp [j]
  refine ⟨m, hm, hmarked, hsame, fun hstyle => ?_⟩
  have hkind : b.kind = .none := by
    have hmem : b ∈ s.blocksOf css := by
      rw [h]
      exact List.mem_cons_self
    have hkeyword : b.keyword.isEmpty = true := by simpa [Block.isAtRule] using hstyle
    rw [Block.kind_of_mem_segment hmem, AtRuleKind.ofKeyword, if_pos hkeyword]
  obtain ⟨first, a, others, n, tail, hwith, hwithout, hpredicates, hfirst, htail⟩ :=
    hmarked.exists_alternatives hstyle j.policy
  refine ⟨first, a, others, n, tail, hwith, hwithout, hpredicates, hfirst, htail, ?_⟩
  rw [hsame, Judge.classify_of_not_isAtRule j hstyle,
    j.keep_direct_marked_iff hmarked hstyle hkind hwith hwithout]

/-- A tag that documents refer to is another tag behind a mark, but the class beside it keeps the
rule. -/
theorem retains_marked_class :
    let s : CheckedSettings := {}
    let u : Usage := { classes := .ofList ["b".toList], tags := .ofList ["a".toList] }
    let css := "a, .b\x7b\x7d .c\x7b\x7d".toList
    let b : Block :=
      { selectors := "a, .b".toList, body := "\x7b\x7d".toList, condition := "a, .b".toList,
        source := "a, .b\x7b\x7d".toList }
    let rest : List Block :=
      [{ selectors := ".c".toList, body := "\x7b\x7d".toList, condition := ".c".toList, order := 1,
         source := " .c\x7b\x7d".toList }]
    s.blocksOf css = b :: rest ∧ b.passthrough = false ∧ retains s u css = [true, false] ∧
      retains s u (mark :: css) = retains s u css := by
  intro s u css b rest
  have hblocks : s.blocksOf css = b :: rest := by decide +kernel
  obtain ⟨m, hm, -, hsame, -⟩ := retains_marked s u css b rest hblocks rfl
  refine ⟨hblocks, rfl, by decide +kernel, hsame.2 (.inr ?_)⟩
  let m' : Block :=
    { selectors := mark :: b.selectors, body := b.body, condition := mark :: b.condition,
      source := mark :: b.source }
  have hm' : s.blocksOf (mark :: css) = m' :: rest := by decide +kernel
  obtain rfl : m = m' := (List.cons.inj (hm.symm.trans hm')).1
  decide +kernel

/-- A page rule is kept by itself, but with a mark it is a style rule for a tag that no document
has. -/
theorem retains_marked_page :
    let css := "@page\x7bmargin:0\x7d".toList
    (Block.segment css).map Block.passthrough = [false] ∧ retains {} {} css = [true] ∧
      retains {} {} (mark :: css) = [false] := by
  decide +kernel

end Stylesheet

end CssTrim
