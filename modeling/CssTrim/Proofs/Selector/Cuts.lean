import CssTrim.Proofs.Selector.Token

/-!
# Where a complex selector is cut

`splitCombinators` cuts a complex selector at its combinators.  What it has in front
of it at a cut are `cuts`.  There are three groups.

* `cuts`, by the recursion of the splitter.
* `Passes front rest`: the splitter goes on behind `front` without a cut.  It passes
  groups, escapes and single characters, and every text starts with one of these or
  with a combinator, by `exists_passes`.
* The pieces.  `splitter_induction` follows the splitter, and by it a text is cut at
  its first cut, by `splitCombinators_cases`, but not behind a backslash that the
  next character belongs to, by `getLast?_of_mem_cuts`.
-/

namespace CssTrim.Selector

/-! ## Where the splitter cuts -/

/-- What the splitter has in front of it when it comes to a combinator that it cuts at. -/
def cuts (t : Text) : List Text :=
  match t with
  | [] => []
  | '\\' :: _ :: rest => cuts rest
  | c :: rest =>
    if c = '[' then cuts (spanBrackets rest).2
    else if c = '(' then cuts (spanParens rest).2
    else if isCombinator c then (c :: rest) :: cuts rest
    else cuts rest
termination_by t.length
decreasing_by
  · simp only [List.length_cons]
    omega
  · have := length_spanBrackets rest
    simp only [List.length_cons]
    omega
  · have := length_spanParens rest
    simp only [List.length_cons]
    omega
  · simp
  · simp

theorem cuts_nil : cuts [] = [] := by rw [cuts]

theorem cuts_cons {c : Char} (hc : c ≠ '\\') (rest : Text) :
    cuts (c :: rest) =
      if c = '[' then cuts (spanBrackets rest).2
      else if c = '(' then cuts (spanParens rest).2
      else if isCombinator c then (c :: rest) :: cuts rest
      else cuts rest := by
  rw [cuts]
  rintro d more h -
  exact hc h

theorem cuts_of_isCombinator {c : Char} (hc : isCombinator c = true) (rest : Text) :
    cuts (c :: rest) = (c :: rest) :: cuts rest := by
  rw [cuts_cons (ne_of_class hc (by decide)), if_neg (ne_of_class hc (by decide)),
    if_neg (ne_of_class hc (by decide)), if_pos hc]

/-! ## What the splitter passes -/

/-- Whether the splitter passes the text `front` as a whole in front of `rest`.  The text does not
end with a backslash that the next character belongs to. -/
structure Passes (front rest : Text) : Prop where
  ne_nil : front ≠ []
  pieces : splitCombinators (front ++ rest) = (splitCombinators rest).modifyHead (front ++ ·)
  cuts : cuts (front ++ rest) = Selector.cuts rest
  ends : front.getLast? = some '\\' → rest = [] ∨ front = ['\\', '\\']

/-- A group is passed. -/
theorem passes_group {pair : Char × Char} (hpair : pair ∈ bracketPairs) {w rest : Text}
    (hspan : spanGroup pair.1 pair.2 0 none (w ++ rest) = (w, rest)) :
    Passes (pair.1 :: w) rest := by
  have hlast := getLast?_spanGroup pair.1 pair.2 0 none (w ++ rest)
  rw [hspan] at hlast
  have hends : pair.2 ≠ '\\' → (pair.1 :: w).getLast? = some '\\' → rest = [] := by
    intro hne heq
    by_contra hrest
    rw [← List.singleton_append, List.getLast?_append, hlast hrest] at heq
    exact hne (Option.some.inj heq)
  simp only [bracketPairs, List.mem_cons, List.not_mem_nil, or_false] at hpair
  rcases hpair with rfl | rfl
  · refine ⟨List.cons_ne_nil _ _, ?_, ?_, fun h => .inl (hends (by decide) h)⟩
    · rw [List.cons_append, splitCombinators_cons (by decide), if_neg (by decide), if_pos rfl,
        spanParens, hspan]
    · rw [List.cons_append, cuts_cons (by decide), if_neg (by decide), if_pos rfl, spanParens,
        hspan]
  · refine ⟨List.cons_ne_nil _ _, ?_, ?_, fun h => .inl (hends (by decide) h)⟩
    · rw [List.cons_append, splitCombinators_cons (by decide), if_pos rfl, spanBrackets, hspan]
    · rw [List.cons_append, cuts_cons (by decide), if_pos rfl, spanBrackets, hspan]

theorem passes_escape (c : Char) (rest : Text) : Passes ['\\', c] rest := by
  refine ⟨List.cons_ne_nil _ _, ?_, ?_, fun h => .inr ?_⟩
  · show splitCombinators ('\\' :: c :: rest) = _
    rw [splitCombinators]
    rfl
  · show Selector.cuts ('\\' :: c :: rest) = _
    rw [Selector.cuts]
  · obtain rfl : c = '\\' := by simpa using h
    rfl

theorem passes_char {c : Char} (hopen : c ≠ '[') (hparen : c ≠ '(') (hc : isCombinator c = false)
    {rest : Text} (hrest : c = '\\' → rest = []) : Passes [c] rest := by
  have hcut : ¬isCombinator c = true := by simp [hc]
  by_cases hescape : c = '\\'
  · have hsign : isCombinator '\\' = false := by decide
    rw [hrest hescape, hescape]
    exact ⟨List.cons_ne_nil _ _, by simp [splitCombinators, hsign], by simp [Selector.cuts, hsign],
      fun _ => .inl rfl⟩
  · refine ⟨List.cons_ne_nil _ _, ?_, ?_, ?_⟩
    · rw [List.singleton_append, splitCombinators_cons hescape, if_neg hopen, if_neg hparen,
        if_neg hcut]
      rfl
    · rw [List.singleton_append, cuts_cons hescape, if_neg hopen, if_neg hparen, if_neg hcut]
    · intro hlast
      exact absurd (Option.some.inj hlast) hescape

/-- The splitter cuts at a combinator and passes everything else. -/
theorem exists_passes {t : Text} (hne : t ≠ []) :
    (∃ c rest, t = c :: rest ∧ isCombinator c = true) ∨
      ∃ front rest, t = front ++ rest ∧ Passes front rest := by
  have hgroup : ∀ {pair : Char × Char}, pair ∈ bracketPairs → ∀ rest,
      ∃ front left, pair.1 :: rest = front ++ left ∧ Passes front left := by
    intro pair hpair rest
    have happend := spanGroup_append pair.1 pair.2 0 none rest
    have hspan := spanGroup_part pair.1 pair.2 0 none rest List.prefix_rfl
    exact ⟨_, _, congrArg (pair.1 :: ·) happend.symm, passes_group hpair hspan⟩
  obtain ⟨c, rest, rfl⟩ := List.exists_cons_of_ne_nil hne
  by_cases hcut : isCombinator c = true
  · exact .inl ⟨c, rest, rfl, hcut⟩
  refine .inr ?_
  by_cases hopen : c = '['
  · rw [hopen]
    exact hgroup (by decide : ('[', ']') ∈ bracketPairs) rest
  by_cases hparen : c = '('
  · rw [hparen]
    exact hgroup (by decide : ('(', ')') ∈ bracketPairs) rest
  by_cases hescape : c = '\\' ∧ rest ≠ []
  · obtain ⟨rfl, hrest⟩ := hescape
    obtain ⟨d, rest, rfl⟩ := List.exists_cons_of_ne_nil hrest
    exact ⟨['\\', d], rest, rfl, passes_escape d rest⟩
  · refine ⟨[c], rest, rfl, passes_char hopen hparen (by simpa using hcut) ?_⟩
    intro hc
    by_contra hrest
    exact hescape ⟨hc, hrest⟩

/-! ## The pieces -/

/-- What holds at the end of a text, at a combinator, and in front of what the splitter passes, holds
of every text. -/
theorem splitter_induction {motive : Text → Prop} (nil : motive [])
    (cut : ∀ {c rest}, isCombinator c = true → motive rest → motive (c :: rest))
    (pass : ∀ {front rest}, Passes front rest → motive rest → motive (front ++ rest)) (t : Text) :
    motive t := by
  induction hlength : t.length using Nat.strong_induction_on generalizing t with
  | _ length ih =>
    by_cases hne : t = []
    · rw [hne]
      exact nil
    · rcases exists_passes hne with ⟨c, rest, rfl, hc⟩ | ⟨front, rest, rfl, h⟩
      · rw [List.length_cons] at hlength
        exact cut hc (ih rest.length (by omega) rest rfl)
      · have hpos := List.length_pos_iff.2 h.ne_nil
        rw [List.length_append] at hlength
        exact pass h (ih rest.length (by omega) rest rfl)

theorem suffix_of_mem_cuts {t u : Text} (hu : u ∈ cuts t) : u <:+ t := by
  induction t using splitter_induction with
  | nil =>
    rw [cuts_nil] at hu
    exact absurd hu List.not_mem_nil
  | @cut c rest hc ih =>
    rw [cuts_of_isCombinator hc, List.mem_cons] at hu
    rcases hu with rfl | hu
    · exact List.suffix_refl _
    · exact (ih hu).trans (List.suffix_cons c rest)
  | @pass front rest h ih =>
    rw [h.cuts] at hu
    exact (ih hu).trans (List.suffix_append front rest)

/-- The splitter cuts a text at the first place, if there is one, and then what is behind it. -/
theorem splitCombinators_cases (t : Text) :
    (splitCombinators t = [t] ∧ cuts t = []) ∨
      ∃ p c rest, t = p ++ c :: rest ∧ isCombinator c = true ∧
        splitCombinators t = p :: splitCombinators rest ∧ cuts t = (c :: rest) :: cuts rest := by
  induction t using splitter_induction with
  | nil => exact .inl ⟨by rw [splitCombinators], cuts_nil⟩
  | @cut c rest hc _ =>
    exact .inr ⟨[], c, rest, rfl, hc, splitCombinators_of_isCombinator hc rest,
      cuts_of_isCombinator hc rest⟩
  | @pass front rest h ih =>
    rcases ih with ⟨hpieces, hcuts⟩ | ⟨p, c, left, rfl, hc, hpieces, hcuts⟩
    · rw [h.pieces, h.cuts, hpieces]
      exact .inl ⟨rfl, hcuts⟩
    · refine .inr ⟨front ++ p, c, left, (List.append_assoc _ _ _).symm, hc, ?_, ?_⟩
      · rw [h.pieces, hpieces, List.modifyHead_cons]
      · rw [h.cuts, hcuts]

/-- If a cut stands behind a backslash, then another backslash is in front of that. -/
theorem getLast?_of_mem_cuts {t f rest : Text} {c : Char} (ht : t = f ++ '\\' :: c :: rest)
    (hcut : c :: rest ∈ cuts t) : f.getLast? = some '\\' := by
  induction t using splitter_induction generalizing f with
  | nil => simp at ht
  | @cut d left hd ih =>
    rw [cuts_of_isCombinator hd, List.mem_cons] at hcut
    rcases hcut with hcut | hcut
    · have hlength := congrArg List.length (hcut.trans ht)
      simp only [List.length_append, List.length_cons] at hlength
      omega
    · cases f with
      | nil => exact absurd (List.cons.inj ht).1 (ne_of_class hd (by decide))
      | cons e f =>
        have hlast := ih (List.cons.inj ht).2 hcut
        rw [List.getLast?_cons, hlast]
        rfl
  | @pass front left h ih =>
    rw [h.cuts] at hcut
    obtain ⟨g, rfl⟩ := suffix_of_mem_cuts hcut
    have hfront : front ++ g = f ++ ['\\'] := by
      have hbehind : (front ++ g) ++ c :: rest = (f ++ ['\\']) ++ c :: rest := by simpa using ht
      exact List.append_cancel_right hbehind
    rcases List.eq_nil_or_concat g with rfl | ⟨g, e, rfl⟩
    · -- The backslash is the last character of what is passed.
      rw [List.append_nil] at hfront
      rcases h.ends (by simp [hfront]) with hnil | hescape
      · simp at hnil
      · obtain rfl : f = ['\\'] := List.append_cancel_right (hfront.symm.trans hescape)
        rfl
    · rw [List.concat_eq_append, ← List.append_assoc] at hfront
      obtain ⟨rfl, he⟩ := List.append_inj' hfront rfl
      obtain rfl : e = '\\' := List.singleton_inj.1 he
      have hlast := ih (f := g) (by simp) hcut
      rw [List.getLast?_append, hlast]
      rfl

end CssTrim.Selector
