import CssTrim.Selector

/-!
# What the scanners of selectors pass

Names, bracket groups, the commas of a group and the combinators of a complex
selector are each found by a scanner of its own.  This module says which texts
they pass without a cut.  There are three groups.

* Names.  `readName` reads a name that is written without escapes as it stands.
* Closed texts.  `Closed p` says that every bracket and every quote of a text is
  closed in it, and that the characters outside of brackets are in the class `p`.
* Scanners: bracket groups, commas and combinators.  Each scanner goes through a
  closed text and goes on behind it, by `Closed.spanGroup_append`,
  `Closed.splitCommas_append` and `Closed.splitCombinators_append`.
-/

namespace CssTrim.Selector

/-! ## Names -/

/-- A character of a class differs from one that is not in the class. -/
theorem ne_of_class {p : Char → Bool} {c d : Char} (hc : p c = true) (hd : p d = false) :
    c ≠ d := by
  rintro rfl
  exact Bool.noConfusion (hc.symm.trans hd)

/-- Whether no name goes on at the start of a text. -/
def EndsName (rest : Text) : Prop := ∀ c ∈ rest.head?, isNameChar c = false ∧ c ≠ '\\'

theorem endsName_nil : EndsName [] := fun _ hc => absurd hc (Option.not_mem_none _)

theorem endsName_cons {c : Char} (hname : isNameChar c = false) (hc : c ≠ '\\') (rest : Text) :
    EndsName (c :: rest) := by
  rintro d ⟨⟩
  exact ⟨hname, hc⟩

theorem readName_cons {c : Char} (hc : c ≠ '\\') (rest : Text) :
    readName (c :: rest) =
      if isNameChar c then (readName rest).map (c :: ·) id else ([], c :: rest) := by
  rw [readName]
  rintro d more h -
  exact hc h

theorem readName_of_endsName {rest : Text} (h : EndsName rest) : readName rest = ([], rest) := by
  cases rest with
  | nil => rw [readName]
  | cons c rest =>
    obtain ⟨hname, hc⟩ := h c rfl
    rw [readName_cons hc, hname]
    rfl

/-- A name is read up to where it ends. -/
theorem readName_append {name rest : Text} (hname : ∀ c ∈ name, isNameChar c = true)
    (hrest : EndsName rest) : readName (name ++ rest) = (name, rest) := by
  induction name with
  | nil => exact readName_of_endsName hrest
  | cons c name ih =>
    obtain ⟨hc, hname⟩ := List.forall_mem_cons.1 hname
    rw [List.cons_append, readName_cons (ne_of_class hc (by decide)), hc, ih hname]
    rfl

/-- Without escapes a name is read as it is written. -/
theorem readName_append_of_not_mem {t : Text} (h : '\\' ∉ t) :
    (readName t).1 ++ (readName t).2 = t := by
  induction t with
  | nil => rw [readName, List.append_nil]
  | cons c t ih =>
    rw [List.mem_cons, not_or] at h
    rw [readName_cons (Ne.symm h.1)]
    split
    · rw [Prod.map_fst, Prod.map_snd, List.cons_append, id, ih h.2]
    · rfl

/-! ## Closed texts -/

/-- A character that opens and closes nothing and escapes nothing. -/
def isPlain (c : Char) : Bool := !"\x22\x27()[]\\".toList.contains c

/-- The pairs of brackets. -/
def bracketPairs : List (Char × Char) := [('(', ')'), ('[', ']')]

/-- Whether every bracket and every quote of a text is closed in the text.  The characters outside
of brackets and quotes are in the class `p`; inside of brackets there may be others.  Texts that are
closed stay so behind each other, which is how a text is put together from its parts. -/
inductive Closed : (Char → Bool) → Text → Prop where
  | nil {p : Char → Bool} : Closed p []
  | plain {p : Char → Bool} {c : Char} (hplain : isPlain c = true) (hc : p c = true) : Closed p [c]
  | quoted {p : Char → Bool} {value : Text} (hquote : p '\x22' = true)
      (hvalue : ∀ c ∈ value, c ≠ '\x22' ∧ c ≠ '\\') : Closed p ('\x22' :: value ++ ['\x22'])
  | group {p : Char → Bool} {pair : Char × Char} {inner : Text} (hpair : pair ∈ bracketPairs)
      (hinner : Closed (fun _ => true) inner) : Closed p (pair.1 :: inner ++ [pair.2])
  | append {p : Char → Bool} {s t : Text} (hs : Closed p s) (ht : Closed p t) : Closed p (s ++ t)

namespace Closed

theorem mono {p q : Char → Bool} {t : Text} (h : Closed p t) (hpq : ∀ c, p c = true → q c = true) :
    Closed q t := by
  induction h with
  | nil => exact .nil
  | plain hplain hc => exact .plain hplain (hpq _ hc)
  | quoted hquote hvalue => exact .quoted (hpq _ hquote) hvalue
  | group hpair hinner => exact .group hpair hinner
  | append _ _ ihs iht => exact .append (ihs hpq) (iht hpq)

theorem of_all {p : Char → Bool} {t : Text} (h : t.all (fun c => isPlain c && p c) = true) :
    Closed p t := by
  induction t with
  | nil => exact .nil
  | cons c t ih =>
    rw [List.all_cons, Bool.and_eq_true, Bool.and_eq_true] at h
    exact .append (.plain h.1.1 h.1.2) (ih h.2)

theorem cons {p : Char → Bool} {c : Char} {t : Text} (hplain : isPlain c = true) (hc : p c = true)
    (ht : Closed p t) : Closed p (c :: t) := .append (.plain hplain hc) ht

theorem brackets (p : Char → Bool) {inner : Text} (h : Closed (fun _ => true) inner) :
    Closed p ('[' :: inner ++ [']']) :=
  @group p ('[', ']') inner (by decide) h

theorem parens (p : Char → Bool) {inner : Text} (h : Closed (fun _ => true) inner) :
    Closed p ('(' :: inner ++ [')']) :=
  @group p ('(', ')') inner (by decide) h

end Closed

theorem isQuote_of_isPlain {c : Char} (h : isPlain c = true) : Text.isQuote c = false := by
  rw [Text.isQuote, Bool.or_eq_false_iff, beq_eq_false_iff_ne, beq_eq_false_iff_ne]
  exact ⟨ne_of_class h (by decide), ne_of_class h (by decide)⟩

/-! ## Bracket groups -/

/-- What stands in quotes is passed. -/
theorem spanGroup_quoted (opening closing : Char) (depth : Nat) {value : Text}
    (hvalue : ∀ c ∈ value, c ≠ '\x22' ∧ c ≠ '\\') (rest : Text) :
    spanGroup opening closing depth (some '\x22') (value ++ '\x22' :: rest) =
      (spanGroup opening closing depth none rest).map (value ++ '\x22' :: ·) id := by
  have hstep : ∀ {c : Char}, c ≠ '\\' → ∀ t : Text,
      spanGroup opening closing depth (some '\x22') (c :: t) =
        (spanGroup opening closing depth (if c = '\x22' then none else some '\x22') t).map
          (c :: ·) id := by
    intro c hc t
    rw [spanGroup]
    rintro d more h -
    exact hc h
  induction value with
  | nil => exact hstep (by decide) rest
  | cons c value ih =>
    obtain ⟨⟨hquote, hc⟩, hvalue⟩ := List.forall_mem_cons.1 hvalue
    rw [List.cons_append, hstep hc, if_neg hquote, ih hvalue, Prod.map_map]
    rfl

theorem spanGroup_cons (opening closing : Char) (depth : Nat) (c : Char) (rest : Text) :
    spanGroup opening closing depth none (c :: rest) =
      if Text.isQuote c then (spanGroup opening closing depth (some c) rest).map (c :: ·) id
      else if c = opening then (spanGroup opening closing (depth + 1) none rest).map (c :: ·) id
      else if c = closing then
        match depth with
        | 0 => ([c], rest)
        | outer + 1 => (spanGroup opening closing outer none rest).map (c :: ·) id
      else (spanGroup opening closing depth none rest).map (c :: ·) id := by
  cases depth with
  | zero | succ => rw [spanGroup]

/-- A character that is neither a quote nor one of the two brackets is passed. -/
theorem spanGroup_skip {opening closing c : Char} (hquote : Text.isQuote c = false)
    (hopening : c ≠ opening) (hclosing : c ≠ closing) (depth : Nat) (rest : Text) :
    spanGroup opening closing depth none (c :: rest) =
      (spanGroup opening closing depth none rest).map (c :: ·) id := by
  rw [spanGroup_cons, hquote, if_neg Bool.false_ne_true, if_neg hopening, if_neg hclosing]

section Pair

variable {pair : Char × Char} (hpair : pair ∈ bracketPairs)

include hpair

theorem isQuote_bracketPairs :
    Text.isQuote pair.1 = false ∧ Text.isQuote pair.2 = false ∧ pair.2 ≠ pair.1 := by
  revert hpair pair
  decide

theorem isPlain_bracketPairs : isPlain pair.1 = false ∧ isPlain pair.2 = false := by
  revert hpair pair
  decide

/-- Two different pairs of brackets have nothing in common. -/
theorem bracketPairs_apart {other : Char × Char} (hother : other ∈ bracketPairs)
    (hne : other ≠ pair) :
    other.1 ≠ pair.1 ∧ other.1 ≠ pair.2 ∧ other.2 ≠ pair.1 ∧ other.2 ≠ pair.2 := by
  revert hpair hother hne pair other
  decide

theorem spanGroup_opening (depth : Nat) (rest : Text) :
    spanGroup pair.1 pair.2 depth none (pair.1 :: rest) =
      (spanGroup pair.1 pair.2 (depth + 1) none rest).map (pair.1 :: ·) id := by
  rw [spanGroup_cons, (isQuote_bracketPairs hpair).1, if_neg Bool.false_ne_true, if_pos rfl]

theorem spanGroup_closing (depth : Nat) (rest : Text) :
    spanGroup pair.1 pair.2 (depth + 1) none (pair.2 :: rest) =
      (spanGroup pair.1 pair.2 depth none rest).map (pair.2 :: ·) id := by
  obtain ⟨-, hquote, hne⟩ := isQuote_bracketPairs hpair
  rw [spanGroup_cons, hquote, if_neg Bool.false_ne_true, if_neg hne, if_pos rfl]

/-- The scanner of a bracket group passes a closed text. -/
theorem Closed.spanGroup_append {p : Char → Bool} {t : Text} (h : Closed p t) (depth : Nat)
    (rest : Text) :
    spanGroup pair.1 pair.2 depth none (t ++ rest) =
      (spanGroup pair.1 pair.2 depth none rest).map (t ++ ·) id := by
  induction h generalizing depth rest with
  | nil => rfl
  | @plain p c hplain _ =>
    obtain ⟨hopening, hclosing⟩ := isPlain_bracketPairs hpair
    rw [List.singleton_append, spanGroup_skip (isQuote_of_isPlain hplain)
      (ne_of_class hplain hopening) (ne_of_class hplain hclosing)]
    rfl
  | @quoted p value _ hvalue =>
    have hquote : Text.isQuote '\x22' = true := by decide
    rw [List.append_assoc, List.cons_append, List.singleton_append, spanGroup_cons, if_pos hquote,
      spanGroup_quoted _ _ _ hvalue, Prod.map_map, Function.comp_id]
    simp only [List.cons_append, List.append_assoc]
    rfl
  | @group p other inner hother _ ih =>
    have hinner : spanGroup pair.1 pair.2 depth none
        (other.1 :: (inner ++ other.2 :: rest)) =
          (spanGroup pair.1 pair.2 depth none rest).map
            (fun t => other.1 :: (inner ++ other.2 :: t)) id := by
      -- A group of the same brackets is one level deeper, any other group is like plain text.
      by_cases hsame : other = pair
      · rw [hsame, spanGroup_opening hpair, ih, spanGroup_closing hpair, Prod.map_map,
          Prod.map_map, Function.comp_id, Function.comp_id]
        rfl
      · obtain ⟨h₁, h₂, h₃, h₄⟩ := bracketPairs_apart hpair hother hsame
        obtain ⟨hquote₁, hquote₂, -⟩ := isQuote_bracketPairs hother
        rw [spanGroup_skip hquote₁ h₁ h₂, ih, spanGroup_skip hquote₂ h₃ h₄, Prod.map_map,
          Prod.map_map, Function.comp_id, Function.comp_id]
        rfl
    rw [List.append_assoc, List.cons_append, List.singleton_append, hinner]
    simp only [List.cons_append, List.append_assoc]
    rfl
  | append _ _ ihs iht =>
    rw [List.append_assoc, ihs, iht, Prod.map_map, Function.comp_id]
    simp only [List.append_assoc]
    rfl

/-- A group ends at the bracket behind a closed text. -/
theorem Closed.spanGroup_close {p : Char → Bool} {t : Text} (h : Closed p t) (rest : Text) :
    spanGroup pair.1 pair.2 0 none (t ++ pair.2 :: rest) = (t ++ [pair.2], rest) := by
  obtain ⟨-, hquote, hne⟩ := isQuote_bracketPairs hpair
  rw [h.spanGroup_append hpair, spanGroup_cons, hquote, if_neg Bool.false_ne_true, if_neg hne,
    if_pos rfl]
  rfl

end Pair

/-! ## Commas -/

theorem splitCommas_cons {c : Char} (hc : c ≠ '\\') (n : Nesting) (rest : Text) :
    splitCommas n (c :: rest) =
      if c = ',' ∧ n.isOutside then [] :: splitCommas n rest
      else (splitCommas (n.next c) rest).modifyHead (c :: ·) := by
  rw [splitCommas]
  rintro d more h -
  exact hc h

/-- The commas in quotes separate nothing. -/
theorem splitCommas_quoted {n : Nesting} (hn : n.quote = some '\x22') {value : Text}
    (hvalue : ∀ c ∈ value, c ≠ '\x22' ∧ c ≠ '\\') (rest : Text) :
    splitCommas n (value ++ '\x22' :: rest) =
      (splitCommas { n with quote := none } rest).modifyHead (value ++ '\x22' :: ·) := by
  have hinside : n.isOutside = false := by
    rw [Nesting.isOutside, hn]
    exact Bool.and_false _
  induction value with
  | nil =>
    have hnext : n.next '\x22' = { n with quote := none } := by
      simp only [Nesting.next, hn, if_pos]
    rw [List.nil_append, splitCommas_cons (by decide), if_neg (by simp), hnext]
    rfl
  | cons c value ih =>
    obtain ⟨⟨hquote, hc⟩, hvalue⟩ := List.forall_mem_cons.1 hvalue
    have hnext : n.next c = n := by
      simp only [Nesting.next, hn, if_neg hquote]
    rw [List.cons_append, splitCommas_cons hc, if_neg (by simp [hinside]), hnext, ih hvalue,
      List.modifyHead_modifyHead]
    rfl

namespace Nesting

theorem next_of_isPlain {n : Nesting} (hn : n.quote = none) {c : Char} (hc : isPlain c = true) :
    n.next c = n := by
  have hbracket : ∀ d, isPlain d = false → ¬c = d := fun d hd => ne_of_class hc hd
  simp only [next, hn, isQuote_of_isPlain hc, hbracket '(' (by decide), hbracket ')' (by decide),
    hbracket '[' (by decide), hbracket ']' (by decide), if_false]
  rfl

/-- The nesting between a pair of brackets, and behind them. -/
theorem next_bracketPairs {n : Nesting} (hn : n.quote = none) {pair : Char × Char}
    (hpair : pair ∈ bracketPairs) :
    (n.next pair.1).quote = none ∧ (n.next pair.1).isOutside = false ∧
      (n.next pair.1).next pair.2 = n := by
  obtain ⟨parens, brackets, quote⟩ := n
  obtain rfl : quote = none := hn
  simp only [bracketPairs, List.mem_cons, List.not_mem_nil, or_false] at hpair
  rcases hpair with rfl | rfl
  · simp [next, isOutside, Text.isQuote]
  · simp [next, isOutside, Text.isQuote]

end Nesting

/-- The scanner of a selector group passes a closed text, unless there are commas in it that
separate alternatives. -/
theorem Closed.splitCommas_append {p : Char → Bool} {t : Text} (h : Closed p t) {n : Nesting}
    (hn : n.quote = none) (hcomma : p ',' = false ∨ n.isOutside = false) (rest : Text) :
    splitCommas n (t ++ rest) = (splitCommas n rest).modifyHead (t ++ ·) := by
  induction h generalizing n rest with
  | nil =>
    rw [List.nil_append]
    exact (congrFun List.modifyHead_id _).symm
  | @plain p c hplain hc =>
    have hpass : ¬(c = ',' ∧ n.isOutside) := by
      rintro ⟨rfl, houtside⟩
      rw [hc, houtside] at hcomma
      exact hcomma.elim Bool.noConfusion Bool.noConfusion
    rw [List.singleton_append, splitCommas_cons (ne_of_class hplain (by decide)), if_neg hpass,
      Nesting.next_of_isPlain hn hplain]
    rfl
  | @quoted p value _ hvalue =>
    have hnext : n.next '\x22' = { n with quote := some '\x22' } := by
      simp [Nesting.next, hn, Text.isQuote]
    have hback : { n with quote := none } = n := by rw [← hn]
    rw [List.append_assoc, List.cons_append, List.singleton_append, splitCommas_cons (by decide),
      if_neg (by simp), hnext, splitCommas_quoted rfl hvalue, hback, List.modifyHead_modifyHead]
    simp only [List.cons_append, List.append_assoc]
    rfl
  | @group p pair inner hpair _ ih =>
    obtain ⟨hquote, hinside, hback⟩ := Nesting.next_bracketPairs hn hpair
    have hsigns : ∀ q ∈ bracketPairs, q.1 ≠ '\\' ∧ q.2 ≠ '\\' ∧ q.1 ≠ ',' := by decide
    obtain ⟨hopening, hclosing, hcomma'⟩ := hsigns pair hpair
    rw [List.append_assoc, List.cons_append, List.singleton_append, splitCommas_cons hopening,
      if_neg (fun h => hcomma' h.1), ih hquote (.inr hinside), splitCommas_cons hclosing,
      if_neg (by simp [hinside]), hback, List.modifyHead_modifyHead, List.modifyHead_modifyHead]
    simp only [List.cons_append, List.append_assoc]
    rfl
  | append _ _ ihs iht =>
    rw [List.append_assoc, ihs hn hcomma, iht hn hcomma, List.modifyHead_modifyHead]
    simp only [List.append_assoc]
    rfl

/-! ## Combinators -/

theorem splitCombinators_cons {c : Char} (hc : c ≠ '\\') (rest : Text) :
    splitCombinators (c :: rest) =
      if c = '[' then
        (splitCombinators (spanBrackets rest).2).modifyHead fun t => c :: (spanBrackets rest).1 ++ t
      else if c = '(' then
        (splitCombinators (spanParens rest).2).modifyHead fun t => c :: (spanParens rest).1 ++ t
      else if isCombinator c then [] :: splitCombinators rest
      else (splitCombinators rest).modifyHead (c :: ·) := by
  rw [splitCombinators]
  rintro d more h -
  exact hc h

/-- A combinator is a cut. -/
theorem splitCombinators_of_isCombinator {c : Char} (hc : isCombinator c = true) (rest : Text) :
    splitCombinators (c :: rest) = [] :: splitCombinators rest := by
  rw [splitCombinators_cons (ne_of_class hc (by decide)), if_neg (ne_of_class hc (by decide)),
    if_neg (ne_of_class hc (by decide)), if_pos hc]

/-- The scanner of a complex selector passes a closed text without combinators and quotes outside
of its brackets. -/
theorem Closed.splitCombinators_append {p : Char → Bool} {t : Text} (h : Closed p t)
    (hp : ∀ c, p c = true → isCombinator c = false ∧ c ≠ '\x22') (rest : Text) :
    splitCombinators (t ++ rest) = (splitCombinators rest).modifyHead (t ++ ·) := by
  induction h generalizing rest with
  | nil =>
    rw [List.nil_append]
    exact (congrFun List.modifyHead_id _).symm
  | @plain p c hplain hc =>
    rw [List.singleton_append, splitCombinators_cons (ne_of_class hplain (by decide)),
      if_neg (ne_of_class hplain (by decide)), if_neg (ne_of_class hplain (by decide)),
      (hp c hc).1]
    rfl
  | quoted hquote => exact absurd rfl (hp _ hquote).2
  | @group p pair inner hpair hinner _ =>
    have hclose := hinner.spanGroup_close hpair rest
    simp only [bracketPairs, List.mem_cons, List.not_mem_nil, or_false] at hpair
    rw [List.append_assoc, List.cons_append, List.singleton_append]
    rcases hpair with rfl | rfl
    · rw [splitCombinators_cons (by decide), if_neg (by decide), if_pos rfl, spanParens, hclose]
      rfl
    · rw [splitCombinators_cons (by decide), if_pos rfl, spanBrackets, hclose]
      rfl
  | append _ _ ihs iht =>
    rw [List.append_assoc, ihs hp, iht hp, List.modifyHead_modifyHead]
    simp only [List.append_assoc]
    rfl

end CssTrim.Selector
