import CssTrim.Policy
import CssTrim.Proofs.Selector.Token
import CssTrim.Proofs.Text.Words

/-!
# A mark in front of a selector

A file may start with a mark that tells its encoding.  No scanner takes the mark
for a blank, and names may hold it, so it becomes part of the first selector of
the file.  There are three groups.

* Texts.  Squeezing a text behind a mark leaves at most one space behind the
  mark, and neither the lower case of the rest nor a search in it depends on the
  mark.
* Parts.  `Selector.simples_marked` says that the mark goes to the tag that the
  selector starts with, or makes a tag of its own.  `Policy.preservedBy_marked`
  says that the predicates do not see it.
* Groups.  `Selector.alternatives_marked` says that of the alternatives only the
  first one has the mark.
-/

namespace CssTrim

namespace Text

/-! ## Texts -/

/-- The mark at the front of a file that tells its encoding. -/
def mark : Char := '\ufeff'

/-- What stands behind a mark is squeezed by itself, with one space in front if there were blanks
between it and the mark. -/
theorem squeeze_cons {c : Char} (hc : isBlank c = false) (t : Text) :
    ∃ gap, (gap = [] ∨ gap = [' ']) ∧ squeeze (c :: t) = c :: (gap ++ squeeze t) := by
  obtain ⟨gap, hgap, hbehind⟩ := squeezeBehind_nil_cases t
  exact ⟨gap, hgap, by rw [squeeze_cons_eq hc, hbehind]⟩

/-- Characters that show no letter with case do not count as the start of a text. -/
theorem meetsCased_append {before : Text} (h : meetsCased before = false) (t : Text) :
    meetsCased (t ++ before) = meetsCased t := by
  induction t with
  | nil => exact h
  | cons c t ih => rw [List.cons_append, meetsCased, meetsCased, ih]

theorem lowerAfter_append {before : Text} (h : meetsCased before = false) (read t : Text) :
    lowerAfter (read ++ before) t = lowerAfter read t := by
  induction t generalizing read with
  | nil => rfl
  | cons c t ih => rw [lowerAfter, lowerAfter, ← List.cons_append, ih, meetsCased_append h]

/-- A character that is its own lower case stays in front of the lower case of the rest. -/
theorem lowerAfter_cons_of_isLowered {c : Char} (hc : isLowered c = true) (before t : Text) :
    lowerAfter before (c :: t) = c :: lowerAfter (c :: before) t := by
  rw [isLowered, Bool.and_eq_true, Bool.and_eq_true, bne_iff_ne, bne_iff_ne, beq_iff_eq] at hc
  rw [lowerAfter, if_neg hc.1.1, if_neg hc.1.2, hc.2]
  rfl

theorem occursIn_cons_of_ne {c d : Char} (hne : d ≠ c) (part t : Text) :
    occursIn (c :: part) (d :: t) = occursIn (c :: part) t := by
  have hstart : (c :: part).isPrefixOf (d :: t) = false := by
    rw [List.isPrefixOf, beq_false_of_ne (Ne.symm hne), Bool.false_and]
  rw [occursIn, hstart, Bool.false_or]

section Gap

variable {gap : Text} (hgap : gap = [] ∨ gap = [' '])

include hgap

/-- The lower case of a text behind a mark. -/
theorem lower_marked (t : Text) : lower (mark :: (gap ++ t)) = mark :: (gap ++ lower t) := by
  have hmark : isLowered mark = true := by decide +kernel
  have hspace : isLowered ' ' = true := by decide
  have hcased : meetsCased [mark] = false ∧ meetsCased [' ', mark] = false := by decide +kernel
  rcases hgap with rfl | rfl
  · rw [List.nil_append, List.nil_append, lower, lowerAfter_cons_of_isLowered hmark]
    exact congrArg (mark :: ·) (lowerAfter_append hcased.1 [] t)
  · rw [List.singleton_append, List.singleton_append, lower, lowerAfter_cons_of_isLowered hmark,
      lowerAfter_cons_of_isLowered hspace]
    exact congrArg (mark :: ' ' :: ·) (lowerAfter_append hcased.2 [] t)

/-- A text that starts neither with the mark nor with a space is found behind them alike. -/
theorem occursIn_marked {c : Char} (hmark : mark ≠ c) (hspace : ' ' ≠ c) (part t : Text) :
    occursIn (c :: part) (mark :: (gap ++ t)) = occursIn (c :: part) t := by
  rw [occursIn_cons_of_ne hmark]
  rcases hgap with rfl | rfl
  · rfl
  · exact occursIn_cons_of_ne hspace part t

end Gap

end Text

open Text (mark)

/-! ## Parts -/

/-- A selector starts with a tag if a name starts it. -/
theorem Selector.simples_eq_consNamed (t : Text) :
    simples t = consNamed .tag (Text.lower (readName t).1) (simples (readName t).2) := by
  have hsigns : ".#[:".toList.all (fun c => !isNameChar c && c != '\\') = true := by decide
  by_cases hnone : (readName t).1 = []
  · rw [readName_eq_of_fst_eq_nil hnone]
    rfl
  · cases t with
    | nil => exact absurd (by rw [readName_of_endsName endsName_nil]) hnone
    | cons c rest =>
      have hc : c ∉ ".#[:".toList := by
        intro hmem
        have hsign := List.all_eq_true.1 hsigns c hmem
        rw [Bool.and_eq_true, Bool.not_eq_true', bne_iff_ne] at hsign
        have hends := endsName_cons hsign.1 hsign.2 rest
        exact hnone (by rw [readName_of_endsName hends])
      have hlower : Text.lower (readName (c :: rest)).1 ≠ [] := by
        intro hnil
        have hlength := congrArg List.length hnil
        rw [Text.length_lower, List.length_nil] at hlength
        exact hnone (List.length_eq_zero_iff.1 (by omega))
      rw [consNamed_of_ne_nil .tag hlower]
      exact simples_of_name hc hnone rfl

section Gap

variable {gap : Text} (hgap : gap = [] ∨ gap = [' '])

include hgap

/-- No predicate sees a mark. -/
theorem Predicate.holds_marked (q : Predicate) (b : Block) (a : Text) :
    q.holds b (mark :: (gap ++ a)) = q.holds b a := by
  cases q with
  | properties =>
    rw [holds, holds, Text.occursIn_marked hgap (by decide) (by decide)]
  | interactive =>
    have hcolon : ∀ p ∈ interactivePseudos, p.head? = some ':' := by decide
    rw [holds, holds, Text.lower_marked hgap, Bool.eq_iff_iff, List.any_eq_true, List.any_eq_true]
    refine exists_congr fun p => and_congr_right fun hp => ?_
    obtain ⟨rest, rfl⟩ := List.head?_eq_some_iff.1 (hcolon p hp)
    rw [Text.occursIn_marked hgap (by decide) (by decide)]
  | root =>
    rw [holds, holds, Text.lower_marked hgap]
    exact Text.occursIn_marked (c := ':') hgap (by decide) (by decide) _ _
  | keyframes | fontFace | media => rfl

theorem Policy.preservedBy_marked (p : Policy) (b : Block) (a : Text) :
    p.preservedBy b (mark :: (gap ++ a)) = p.preservedBy b a := by
  unfold preservedBy
  simp only [Predicate.holds_marked hgap]

namespace Selector

/-- A mark belongs to the tag that a selector starts with, or makes a tag of its own. -/
theorem simples_marked (a : Text) :
    ∃ n tail, simples (mark :: (gap ++ a)) = .tag (mark :: n) :: tail ∧
      simples a = consNamed .tag n tail := by
  have hsign : mark ∉ ".#[:".toList := by decide
  have hname : isNameChar mark = true := by decide
  rcases hgap with rfl | rfl
  · have hread : readName (mark :: a) = (mark :: (readName a).1, (readName a).2) := by
      rw [readName_cons (by decide), hname]
      rfl
    have hlower : Text.lower (mark :: (readName a).1) = mark :: Text.lower (readName a).1 :=
      @Text.lower_marked [] (.inl rfl) _
    refine ⟨Text.lower (readName a).1, simples (readName a).2, ?_, simples_eq_consNamed a⟩
    rw [List.nil_append, simples_of_name hsign (List.cons_ne_nil _ _) hread, hlower]
  · have hread : readName (mark :: ' ' :: a) = ([mark], ' ' :: a) := by
      refine @readName_append [mark] _ ?_ (endsName_cons (by decide) (by decide) a)
      exact List.forall_mem_singleton.2 hname
    have hlower : Text.lower [mark] = [mark] := @Text.lower_marked [] (.inl rfl) []
    refine ⟨[], simples a, ?_, rfl⟩
    rw [List.singleton_append, simples_of_name hsign (List.cons_ne_nil _ _) hread, hlower,
      simples_space]

end Selector

end Gap

/-! ## Groups -/

namespace Selector

/-- **Only the first alternative of a group has the mark.**  Blanks behind the mark are squeezed to
one space.  A group that starts with a comma, or is blank, gets the mark as an alternative of its
own. -/
theorem alternatives_marked {w : Text} (hw : Text.isBlankText w) (t : Text) :
    ∃ gap a others, (gap = [] ∨ gap = [' ']) ∧
      alternatives (mark :: (w ++ t)) = (mark :: (gap ++ a)) :: others ∧
        alternatives t = [a].filter (!·.isEmpty) ++ others := by
  have hplain : isPlain mark = true := by decide
  have hcomma : mark ≠ ',' := by decide
  have hsigns : "\x22\x27()[]\\".toList.all (fun c => !Text.isBlank c) = true := by decide
  have hblanks : Closed Text.isBlank w := by
    refine Closed.of_all (List.all_eq_true.2 fun c hc => ?_)
    have hblank := Text.forall_isBlank_of_isBlankText hw c hc
    rw [hblank, Bool.and_true, isPlain, Bool.not_eq_true', ← Bool.not_eq_true,
      List.contains_iff_mem]
    intro hmem
    have hsign := List.all_eq_true.1 hsigns c hmem
    rw [hblank] at hsign
    cases hsign
  obtain ⟨p, ps, hpieces⟩ := List.exists_cons_of_ne_nil (splitCommas_ne_nil {} t)
  have hmarked : splitCommas {} (mark :: (w ++ t)) = (mark :: (w ++ p)) :: ps := by
    rw [splitCommas_cons (by decide), if_neg (fun h => hcomma h.1),
      Nesting.next_of_isPlain rfl hplain, hblanks.splitCommas_append rfl (.inl (by decide)),
      hpieces]
    rfl
  obtain ⟨gap, hgap, hsqueeze⟩ := Text.squeeze_cons (show Text.isBlank mark = false by decide)
    (w ++ p)
  rw [Text.squeeze_append_of_isBlankText hw] at hsqueeze
  refine ⟨gap, Text.squeeze p, (ps.map Text.squeeze).filter (!·.isEmpty), hgap, ?_, ?_⟩
  · rw [alternatives, hmarked, List.map_cons, hsqueeze]
    rfl
  · rw [alternatives, hpieces, List.map_cons, ← List.singleton_append, List.filter_append]

end Selector

end CssTrim
