import CssTrim.Proofs.Selector.Token

/-!
# Where the reader of simple selectors stops

`simples` takes one simple selector, or else one sign, from a text and goes on behind
it.  The texts that it has in front of it in turn are `stops`.  There are three groups.

* `behind`: what is left behind the first simple selector, by `Takes.behind_append`.
* `stops`, the recursion over it.
* Texts in front of a stop.  `stops_induction` goes through a text in front of a given
  one, and says that the reader comes to the end of it or takes something that goes on
  behind it.  In the first case both parts are read on their own, by
  `simples_append_of_mem_stops`.
-/

namespace CssTrim.Selector

/-! ## What is behind a simple selector -/

/-- What is behind the name at the front of a text.  The space behind the code at the end of the
name is left there. -/
def behindName (t : Text) : Text :=
  match t with
  | [] => []
  | '\\' :: c :: rest =>
    if (Text.hexValue? c).isSome then
      let left := (spanHex 5 rest).2
      if (readName (dropSpace left)).1 = [] then left else behindName (dropSpace left)
    else behindName rest
  | c :: rest => if isNameChar c then behindName rest else c :: rest
termination_by t.length
decreasing_by
  · have h₁ := length_spanHex_le 5 rest
    have h₂ := length_dropSpace_le (spanHex 5 rest).2
    simp only [List.length_cons]
    omega
  · simp only [List.length_cons]
    omega
  · simp

/-- What is behind the simple selector, or else the single sign, at the front of a text. -/
def behind : Text → Text
  | [] => []
  | c :: rest =>
    if c = '.' ∨ c = '#' then behindName rest
    else if c = '[' then (spanBrackets rest).2
    else if c = ':' then
      match (readName (spanColon rest).2).2 with
      | '(' :: args => (spanParens args).2
      | left => left
    else if (readName (c :: rest)).1 = [] then rest
    else behindName (c :: rest)

theorem behindName_cons {c : Char} (hc : c ≠ '\\') (rest : Text) :
    behindName (c :: rest) = if isNameChar c then behindName rest else c :: rest := by
  rw [behindName]
  rintro d more h -
  exact hc h

theorem behindName_code {digits rest : Text} (h : IsCode digits rest) :
    behindName ('\\' :: (digits ++ rest)) =
      if (readName (dropSpace rest)).1 = [] then rest else behindName (dropSpace rest) := by
  obtain ⟨first, more, rfl⟩ := List.exists_cons_of_ne_nil h.ne_nil
  have hfirst := h.isHex first List.mem_cons_self
  rw [List.cons_append, behindName, if_pos hfirst, h.spanHex_append]

theorem behindName_of_no_name {rest : Text} (h : readName rest = ([], rest)) :
    behindName rest = rest := by
  cases rest with
  | nil => rw [behindName]
  | cons c rest =>
    by_cases hc : c = '\\'
    · subst hc
      cases rest with
      | nil => simp [behindName, isNameChar]
      | cons d rest => exact absurd h (readName_escape_ne d rest)
    · rw [readName_cons hc] at h
      rw [behindName_cons hc]
      split at h
      · simp [Prod.ext_iff] at h
      · rw [if_neg (by assumption)]

theorem Spells.behindName_append {w n gap rest : Text} (h : Spells w n gap rest) :
    behindName (w ++ (gap ++ rest)) = gap ++ rest := by
  induction h with
  | nil hends => exact behindName_of_no_name hends
  | plain hc _ ih =>
    rw [List.cons_append, behindName_cons (ne_of_class hc (by decide)), if_pos hc, ih]
  | escaped hc _ ih =>
    rw [List.cons_append, List.cons_append, behindName, hc]
    exact ih
  | last hcode hgap hends =>
    rw [List.cons_append, behindName_code hcode, hgap.dropSpace, hends, if_pos rfl]
  | code hcode hspace hne h ih =>
    rw [List.cons_append, List.append_assoc, List.append_assoc, behindName_code hcode,
      hspace.dropSpace, h.readName_append, if_neg (mt h.name_eq_nil_iff.1 hne), ih]

theorem behind_of_not_mem {c : Char} (hc : c ∉ ".#[:".toList) (rest : Text) :
    behind (c :: rest) =
      if (readName (c :: rest)).1 = [] then rest else behindName (c :: rest) := by
  have hsign : ∀ d ∈ ".#[:".toList, c ≠ d := fun d hd h => hc (h ▸ hd)
  have hnamed : ¬(c = '.' ∨ c = '#') := by
    rintro (h | h)
    · exact hsign '.' (by decide) h
    · exact hsign '#' (by decide) h
  rw [behind, if_neg hnamed, if_neg (hsign '[' (by decide)), if_neg (hsign ':' (by decide))]

theorem behind_colon (rest : Text) :
    behind (':' :: rest) =
      match (readName (spanColon rest).2).2 with
      | '(' :: args => (spanParens args).2
      | left => left := by
  rw [behind, if_neg (by decide), if_neg (by decide), if_pos rfl]

/-- The reader goes on behind what it takes. -/
theorem Takes.behind_append {front rest : Text} {found : List SimpleSelector}
    (h : Takes front found rest) : behind (front ++ rest) = rest := by
  cases h with
  | @named sign make w n gap rest hsign h =>
    have hnamed : sign = '.' ∨ sign = '#' := by
      cases hsign with
      | dot => exact .inl rfl
      | hash => exact .inr rfl
    rw [List.cons_append, behind, if_pos hnamed, h.behindName_append]
  | @tag w n gap rest h hne =>
    obtain ⟨c, w, rfl⟩ := List.exists_cons_of_ne_nil hne
    have hread := h.readName_append
    have hbehind := h.behindName_append
    rw [List.cons_append] at hread hbehind ⊢
    rw [behind_of_not_mem h.head_not_mem, hread, if_neg (mt h.name_eq_nil_iff.1 hne), hbehind]
  | @attr w rest h =>
    rw [List.cons_append, behind, if_neg (by decide), if_pos rfl, h]
  | @pseudo colon w n gap rest hcolon h hparen =>
    have hread := h.readName_append
    have hspan := spanColon_append hcolon
    simp only [List.cons_append, List.append_assoc] at hread hspan ⊢
    rw [behind_colon, hspan, hread]
    dsimp only
    split
    · rename_i args
      exact absurd rfl hparen
    · rfl
  | @functional colon w n gap args rest hcolon h hargs =>
    have hread := h.readName_append
    have hspan := spanColon_append hcolon
    simp only [List.cons_append, List.append_assoc] at hread hspan ⊢
    rw [behind_colon, hspan, hread]
    exact congrArg Prod.snd hargs
  | sign hc hnone => rw [List.singleton_append, behind_of_not_mem hc, hnone, if_pos rfl]

theorem length_behind_lt (c : Char) (rest : Text) :
    (behind (c :: rest)).length < (c :: rest).length := by
  obtain ⟨front, found, left, ht, h⟩ := exists_takes (List.cons_ne_nil c rest)
  have hpos := List.length_pos_iff.2 h.ne_nil
  rw [ht, h.behind_append, List.length_append]
  omega

/-! ## Where the reader stops -/

/-- What the reader has in front of it when it starts on a simple selector or on a single sign. -/
def stops (t : Text) : List Text :=
  match t with
  | [] => []
  | c :: rest => (c :: rest) :: stops (behind (c :: rest))
termination_by t.length
decreasing_by exact length_behind_lt c rest

theorem stops_nil : stops [] = [] := by rw [stops]

theorem Takes.stops_append {front rest : Text} {found : List SimpleSelector}
    (h : Takes front found rest) : stops (front ++ rest) = (front ++ rest) :: stops rest := by
  have hbehind := h.behind_append
  obtain ⟨c, w, rfl⟩ := List.exists_cons_of_ne_nil h.ne_nil
  rw [List.cons_append] at hbehind ⊢
  rw [stops, hbehind]

theorem suffix_of_mem_stops {t u : Text} (hu : u ∈ stops t) : u <:+ t := by
  induction hlength : t.length using Nat.strong_induction_on generalizing t with
  | _ length ih =>
    by_cases hne : t = []
    · rw [hne, stops_nil] at hu
      exact absurd hu List.not_mem_nil
    · obtain ⟨front, found, rest, rfl, h⟩ := exists_takes hne
      rw [h.stops_append, List.mem_cons] at hu
      rcases hu with rfl | hu
      · exact List.suffix_refl _
      · have hpos := List.length_pos_iff.2 h.ne_nil
        rw [List.length_append] at hlength
        exact (ih rest.length (by omega) hu rfl).trans (List.suffix_append front rest)

/-! ## Texts in front of a stop -/

/-- A text in front of `u` is taken piece by piece, until it is at its end or something is taken that
goes on in `u`. -/
theorem stops_induction {u : Text} {motive : Text → Prop} (nil : motive [])
    (step : ∀ {front found f}, Takes front found (f ++ u) →
      stops (front ++ f ++ u) = (front ++ f ++ u) :: stops (f ++ u) → motive f → motive (front ++ f))
    (across : ∀ {f y found rest}, f ≠ [] → y ≠ [] → u = y ++ rest → Takes (f ++ y) found rest →
      u ∉ stops (f ++ u) → motive f) (f : Text) : motive f := by
  induction hlength : f.length using Nat.strong_induction_on generalizing f with
  | _ length ih =>
    by_cases hf : f = []
    · rw [hf]
      exact nil
    · obtain ⟨front, found, rest, ht, h⟩ := exists_takes (t := f ++ u) (by simp [hf])
      have hstops := h.stops_append
      have hpos := List.length_pos_iff.2 h.ne_nil
      have hinside : ∀ f', f = front ++ f' → rest = f' ++ u → motive f := by
        rintro f' rfl rfl
        rw [List.length_append] at hlength
        rw [← List.append_assoc] at hstops
        exact step h hstops (ih f'.length (by omega) f' rfl)
      -- What is taken ends in front of `u`, just there, or behind the start of `u`.
      rcases List.append_eq_append_iff.1 ht with ⟨y, hfront, hu⟩ | ⟨f', hfront, hrest⟩
      · by_cases hy : y = []
        · subst hy
          exact hinside [] (by simpa using hfront.symm) (by simpa using hu.symm)
        · rw [hfront] at h
          refine across hf hy hu h fun hmem => ?_
          rw [ht, hstops, ← ht, List.mem_cons] at hmem
          rcases hmem with hmem | hmem
          · exact hf (by simpa using hmem)
          · have hle := (suffix_of_mem_stops hmem).length_le
            have hlt := List.length_pos_iff.2 hy
            rw [hu, List.length_append] at hle
            omega
      · exact hinside f' hfront hrest

theorem mem_stops_self {u : Text} (hu : u ≠ []) : u ∈ stops u := by
  obtain ⟨front, found, rest, rfl, h⟩ := exists_takes hu
  rw [h.stops_append]
  exact List.mem_cons_self

/-- A text is no place behind something in front of it. -/
theorem ne_append_of_takes {front rest : Text} {found : List SimpleSelector}
    (h : Takes front found rest) {u : Text} (hu : u <:+ rest) : u ≠ front ++ rest := by
  intro heq
  have hle := hu.length_le
  have hpos := List.length_pos_iff.2 h.ne_nil
  rw [heq, List.length_append] at hle
  omega

/-- Up to a place where the reader stops, and from there on, a text is read on its own. -/
theorem simples_append_of_mem_stops {f u : Text} (hu : u ∈ stops (f ++ u)) {p : Text}
    (hp : p <+: u) : simples (f ++ p) = simples f ++ simples p := by
  induction f using stops_induction (u := u) with
  | nil => rw [simples_nil, List.nil_append, List.nil_append]
  | @step front found f h hstops ih =>
    have hne := ne_append_of_takes h (List.suffix_append f u)
    rw [← List.append_assoc] at hne
    rw [hstops, List.mem_cons, or_iff_right hne] at hu
    have hwhole := h.mono ((List.prefix_append_right_inj f).2 hp)
    have halone := h.mono (List.prefix_append f u)
    rw [List.append_assoc, hwhole.simples_append, ih hu, halone.simples_append, List.append_assoc]
  | across _ _ _ _ hnot => exact absurd hu hnot

/-- The places behind a place where the reader stops are those of what it has in front of it
there. -/
theorem mem_stops_iff_of_mem_stops {f v : Text} (hv : v ∈ stops (f ++ v)) {u : Text}
    (hu : u <:+ v) : u ∈ stops (f ++ v) ↔ u ∈ stops v := by
  induction f using stops_induction (u := v) with
  | nil => exact Iff.rfl
  | @step front found f h hstops ih =>
    have hne : ∀ {u : Text}, u <:+ v → u ≠ front ++ f ++ v := by
      intro u hu
      rw [List.append_assoc]
      exact ne_append_of_takes h (hu.trans (List.suffix_append f v))
    rw [hstops, List.mem_cons, or_iff_right (hne (List.suffix_refl v))] at hv
    rw [hstops, List.mem_cons, or_iff_right (hne hu), ih hv]
  | across _ _ _ _ hnot => exact absurd hv hnot

/-- Where the reader does not stop, something that it takes goes on. -/
theorem exists_takes_of_not_mem_stops {f u : Text} (hne : u ≠ []) (hu : u ∉ stops (f ++ u)) :
    ∃ before x y found rest, f = before ++ x ∧ x ≠ [] ∧ y ≠ [] ∧ u = y ++ rest ∧
      Takes (x ++ y) found rest ∧ x ++ u ∈ stops (f ++ u) := by
  induction f using stops_induction (u := u) with
  | nil => exact absurd (mem_stops_self hne) hu
  | @step front found f h hstops ih =>
    rw [hstops, List.mem_cons, not_or] at hu
    obtain ⟨before, x, y, found', rest, rfl, hx, hy, htext, htakes, hmem⟩ := ih hu.2
    refine ⟨front ++ before, x, y, found', rest, by simp, hx, hy, htext, htakes, ?_⟩
    rw [hstops]
    exact List.mem_cons_of_mem _ hmem
  | @across f y found rest hf hy htext htakes _ =>
    exact ⟨[], f, y, found, rest, rfl, hf, hy, htext, htakes, mem_stops_self (by simp [hf])⟩

/-- Where the reader stops at a backslash with a character behind it, no backslash is in front of
it. -/
theorem getLast?_ne_of_mem_stops {f more : Text} {c : Char}
    (hu : '\\' :: c :: more ∈ stops (f ++ '\\' :: c :: more)) : f.getLast? ≠ some '\\' := by
  induction f using stops_induction (u := '\\' :: c :: more) with
  | nil => simp
  | @step front found f h hstops ih =>
    cases f with
    | nil =>
      rw [List.append_nil]
      exact h.getLast?_ne rfl
    | cons d f =>
      have hne := ne_append_of_takes h (List.suffix_append (d :: f) ('\\' :: c :: more))
      rw [← List.append_assoc] at hne
      rw [hstops, List.mem_cons, or_iff_right hne] at hu
      rw [List.getLast?_append_of_ne_nil _ (List.cons_ne_nil d f)]
      exact ih hu
  | across _ _ _ _ hnot => exact absurd hu hnot

end CssTrim.Selector
