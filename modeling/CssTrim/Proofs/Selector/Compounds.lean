import CssTrim.Proofs.Selector.Cuts
import CssTrim.Proofs.Selector.Stops

/-!
# A selector and its compound selectors

A complex selector is read as simple selectors by one scanner and cut into compound
selectors by another.  Do the compound selectors hold the same simple selectors, in
the same order?  There are four groups.

* Combinators.  In an alternative of a group the only blanks are spaces, so that no
  combinator belongs to a name.
* Cuts and stops.  At a cut where the reader stops, both sides are read on their own.
  At any other cut the simple selector in front of it is read differently, by
  `simples_ne_of_not_mem_stops`.
* Cuts in what the reader takes.  Only the space behind a code is one of these, as
  long as no parenthesis stands alone: `Takes.mem_cuts`.
* `flatMap_simples_compounds_iff` puts the two together.
-/

namespace CssTrim.Selector

/-! ## Combinators -/

/-- Whether the only blanks of a text are spaces. -/
def OnlySpaces (t : Text) : Prop := ∀ c ∈ t, Text.isBlank c = true → c = ' '

theorem OnlySpaces.of_subset {s t : Text} (h : OnlySpaces t) (hst : ∀ c ∈ s, c ∈ t) :
    OnlySpaces s := fun c hc => h c (hst c hc)

theorem onlySpaces_of_mem_alternatives {g s : Text} (hs : s ∈ alternatives g) : OnlySpaces s := by
  obtain ⟨hmap, hne⟩ := List.mem_filter.1 hs
  obtain ⟨piece, -, rfl⟩ := List.mem_map.1 hmap
  exact fun c hmem hc => (Text.Spaced.of_squeeze (by simpa using hne)).eq_space hmem hc

/-- A combinator is not part of a name, and the reader takes nothing but its single sign. -/
theorem combinator_signs {c : Char} (hc : isCombinator c = true)
    (hblank : Text.isBlank c = true → c = ' ') :
    isNameChar c = false ∧ c ≠ '\\' ∧ ∀ rest, Takes [c] [] rest := by
  have hsigns : c ∈ [' ', '>', '+', '~'] := by
    simp only [isCombinator, Bool.or_eq_true, beq_iff_eq] at hc
    simp only [List.mem_cons, List.not_mem_nil, or_false]
    tauto
  have hall : [' ', '>', '+', '~'].all
      (fun d => !isNameChar d && d != '\\' && !".#[:".toList.contains d) = true := by decide
  have hsign := List.all_eq_true.1 hall c hsigns
  simp only [Bool.and_eq_true, Bool.not_eq_true', bne_iff_ne, ne_eq] at hsign
  obtain ⟨⟨hname, hescape⟩, hout⟩ := hsign
  refine ⟨hname, hescape, fun rest => .sign ?_ ?_⟩
  · rw [← List.contains_iff_mem, hout]
    exact Bool.false_ne_true
  · exact readName_of_endsName (endsName_cons hname hescape rest)

/-! ## Cuts and stops -/

/-- Empty pieces do not matter. -/
theorem flatMap_simples_compounds (t : Text) :
    (compounds t).flatMap simples = (splitCombinators t).flatMap simples := by
  rw [compounds]
  induction splitCombinators t with
  | nil => rfl
  | cons p ps ih =>
    rw [List.filter_cons, List.flatMap_cons, ← ih]
    cases p with
    | nil => rw [simples_nil]; rfl
    | cons c p => rfl

/-- At a cut where the reader does not stop something is read differently. -/
theorem simples_ne_of_not_mem_stops {p rest : Text} {c : Char}
    (hcut : c :: rest ∈ cuts (p ++ c :: rest)) (hname : isNameChar c = false) (hc : c ≠ '\\')
    (hstop : c :: rest ∉ stops (p ++ c :: rest)) (others : List SimpleSelector) :
    simples p ++ others ≠ simples (p ++ c :: rest) := by
  obtain ⟨before, x, y, found, left, rfl, hx, hy, htext, htakes, hmem⟩ :=
    exists_takes_of_not_mem_stops (List.cons_ne_nil c rest) hstop
  obtain ⟨d, y, rfl⟩ := List.exists_cons_of_ne_nil hy
  obtain ⟨rfl, rfl⟩ : c = d ∧ rest = y ++ left := List.cons.inj htext
  rw [List.append_assoc] at hmem hcut ⊢
  have hpart : x <+: x ++ c :: (y ++ left) := List.prefix_append x _
  rw [simples_append_of_mem_stops hmem hpart, simples_append_of_mem_stops hmem List.prefix_rfl,
    List.append_assoc]
  have hread := htakes.simples_append
  rw [List.append_assoc, List.cons_append] at hread
  -- Nothing is left of a name only behind its first backslash, and there the splitter cuts nothing.
  rcases htakes.clip rfl hx hname hc with
    ⟨k, ks, k', ks', hfound, hleft, hne⟩ | rfl | ⟨sign, make, hsign, rfl⟩
  · rw [hread, hfound, hleft]
    intro heq
    exact hne (List.cons.inj (List.append_cancel_left heq)).1
  · exact absurd (getLast?_of_mem_cuts rfl hcut) (getLast?_ne_of_mem_stops hmem)
  · have hlast := getLast?_of_mem_cuts (f := before ++ [sign]) (by simp) hcut
    rw [List.getLast?_concat] at hlast
    cases hsign <;> simp at hlast

/-- A text is read like the pieces of it if the splitter cuts only where the reader stops. -/
theorem flatMap_simples_splitCombinators_iff {s : Text} (hs : OnlySpaces s) :
    (splitCombinators s).flatMap simples = simples s ↔ cuts s ⊆ stops s := by
  induction hlength : s.length using Nat.strong_induction_on generalizing s with
  | _ length ih =>
    rcases splitCombinators_cases s with ⟨hpieces, hcuts⟩ | ⟨p, c, rest, rfl, hc, hpieces, hcuts⟩
    · rw [hpieces, hcuts, List.flatMap_singleton]
      exact iff_of_true rfl (List.nil_subset _)
    · obtain ⟨hname, hescape, hsign⟩ := combinator_signs hc (hs c (by simp))
      rw [List.length_append, List.length_cons] at hlength
      have hrest : OnlySpaces rest := fun d hd => hs d (by simp [hd])
      rw [hpieces, List.flatMap_cons, hcuts, List.cons_subset]
      -- Behind a cut the splitter starts anew, and if the reader stops there, so does it.
      by_cases hstop : c :: rest ∈ stops (p ++ c :: rest)
      · have hread := (hsign rest).simples_append
        have hbehind := (hsign rest).stops_append
        have hsub : cuts rest ⊆ stops (p ++ c :: rest) ↔ cuts rest ⊆ stops rest := by
          refine forall₂_congr fun u hu => ?_
          have hpart := suffix_of_mem_cuts hu
          have hlater := ne_append_of_takes (hsign rest) hpart
          rw [mem_stops_iff_of_mem_stops hstop (hpart.trans (List.suffix_cons c rest)),
            ← List.singleton_append, hbehind, List.mem_cons, or_iff_right hlater]
        rw [simples_append_of_mem_stops hstop List.prefix_rfl, and_iff_right hstop, hsub,
          ← List.singleton_append, hread, List.nil_append, List.append_cancel_left_eq]
        exact ih rest.length (by omega) hrest rfl
      · refine iff_of_false ?_ fun h => hstop h.1
        exact simples_ne_of_not_mem_stops (by simp [hcuts]) hname hescape hstop _

/-! ## Cuts in what the reader takes -/

/-- Whether a code stands in a text, `u` is what is behind the code, and it starts with a space. -/
def FollowsCode (t u : Text) : Prop :=
  ∃ front digits, t = front ++ '\\' :: (digits ++ u) ∧ IsCode digits u ∧ u.head? = some ' '

theorem FollowsCode.append {t u : Text} (h : FollowsCode t u) (s : Text) :
    FollowsCode (s ++ t) u := by
  obtain ⟨front, digits, rfl, hcode, hhead⟩ := h
  exact ⟨s ++ front, digits, by simp, hcode, hhead⟩

/-- The characters of names are passed. -/
theorem cuts_append_of_isNameChar {w : Text} (hname : ∀ c ∈ w, isNameChar c = true)
    (hs : OnlySpaces w) (rest : Text) : cuts (w ++ rest) = cuts rest := by
  induction w with
  | nil => rfl
  | cons c w ih =>
    obtain ⟨hc, hw⟩ := List.forall_mem_cons.1 hname
    -- A blank beyond ASCII would be a name character and a combinator as well.
    have hcut : isCombinator c = false := by
      rw [← Bool.not_eq_true]
      intro hcut
      have hsign := (combinator_signs hcut (hs c List.mem_cons_self)).1
      exact Bool.noConfusion (hc.symm.trans hsign)
    have hpass : Passes [c] (w ++ rest) :=
      passes_char (ne_of_class hc (by decide)) (ne_of_class hc (by decide)) hcut
        fun h => absurd h (ne_of_class hc (by decide))
    exact hpass.cuts.trans (ih hw (hs.of_subset fun d hd => List.mem_cons_of_mem c hd))

/-- A code is cut off only at its space. -/
theorem IsCode.mem_cuts {digits space t u : Text} (hcode : IsCode digits (space ++ t))
    (hspace : Perhaps ' ' space t) (hu : u ∈ cuts ('\\' :: (digits ++ (space ++ t)))) :
    u ∈ cuts t ∨ FollowsCode ('\\' :: (digits ++ (space ++ t))) u := by
  have hdigits : cuts ('\\' :: (digits ++ (space ++ t))) = cuts (space ++ t) := by
    obtain ⟨first, more, rfl⟩ := List.exists_cons_of_ne_nil hcode.ne_nil
    have hmore : ∀ d ∈ more, (Text.hexValue? d).isSome = true := fun d hd =>
      hcode.isHex d (List.mem_cons_of_mem first hd)
    have hplain : OnlySpaces more := by
      intro d hd hblank
      rw [(isNameChar_of_hexValue? (hmore d hd)).2] at hblank
      exact absurd hblank Bool.false_ne_true
    have hpass := passes_escape first (more ++ (space ++ t))
    exact hpass.cuts.trans (cuts_append_of_isNameChar
      (fun d hd => (isNameChar_of_hexValue? (hmore d hd)).1) hplain _)
  rw [hdigits] at hu
  rcases hspace with rfl | ⟨rfl, -⟩
  · rw [List.singleton_append, cuts_of_isCombinator (by decide), List.mem_cons] at hu
    rcases hu with rfl | hu
    · exact .inr ⟨[], digits, rfl, hcode, rfl⟩
    · exact .inl hu
  · exact .inl hu

/-- A name is cut only at the spaces of its codes. -/
theorem Spells.mem_cuts {w n gap rest u : Text} (h : Spells w n gap rest) (hs : OnlySpaces w)
    (hu : u ∈ cuts (w ++ (gap ++ rest))) :
    u ∈ cuts rest ∨ FollowsCode (w ++ (gap ++ rest)) u := by
  induction h with
  | nil => exact .inl hu
  | @plain c w n gap rest hc h ih =>
    have hw : OnlySpaces w := hs.of_subset fun d hd => List.mem_cons_of_mem c hd
    have hfirst : OnlySpaces [c] := hs.of_subset fun d hd => by simp_all
    have hpass := cuts_append_of_isNameChar (List.forall_mem_singleton.2 hc) hfirst
      (w ++ (gap ++ rest))
    exact (ih hw (hpass ▸ hu)).imp_right fun h => h.append [c]
  | @escaped c w n gap rest hc h ih =>
    have hw : OnlySpaces w := hs.of_subset fun d hd => by simp [hd]
    have hpass := (passes_escape c (w ++ (gap ++ rest))).cuts
    exact (ih hw (hpass ▸ hu)).imp_right fun h => h.append ['\\', c]
  | @last digits gap rest hcode hgap _ => exact hcode.mem_cuts hgap hu
  | @code digits space w n gap rest hcode hspace _ h ih =>
    have hw : OnlySpaces w := hs.of_subset fun d hd => by simp [hd]
    have htext : '\\' :: (digits ++ (space ++ w)) ++ (gap ++ rest) =
        '\\' :: (digits ++ (space ++ (w ++ (gap ++ rest)))) := by simp
    rw [htext] at hu ⊢
    refine (hcode.mem_cuts hspace hu).elim (fun hu => ?_) .inr
    refine (ih hw hu).imp_right fun h => ?_
    have hmore := h.append ('\\' :: (digits ++ space))
    simpa using hmore

theorem Spells.mem_cuts_gap {w n gap rest u : Text} (h : Spells w n gap rest)
    (hu : u ∈ cuts rest) : u ∈ cuts (gap ++ rest) := by
  rcases h.gap_eq with rfl | rfl
  · exact hu
  · rw [List.singleton_append, cuts_of_isCombinator (by decide)]
    exact List.mem_cons_of_mem _ hu

/-- Signs in front of a name, and colons, are passed. -/
theorem cuts_append_of_sign {front : Text} (hfront : ∀ c ∈ front, c ∈ ['.', '#', ':'])
    (rest : Text) : cuts (front ++ rest) = cuts rest := by
  have hsigns : ['.', '#', ':'].all (fun c => c != '[' && c != '(' && c != '\\' &&
      !isCombinator c) = true := by decide
  induction front with
  | nil => rfl
  | cons c front ih =>
    obtain ⟨hc, hmore⟩ := List.forall_mem_cons.1 hfront
    have hsign := List.all_eq_true.1 hsigns c hc
    simp only [Bool.and_eq_true, bne_iff_ne, Bool.not_eq_true'] at hsign
    obtain ⟨⟨⟨hopen, hparen⟩, hescape⟩, hcut⟩ := hsign
    have hpass : Passes [c] (front ++ rest) :=
      passes_char hopen hparen hcut fun h => absurd h hescape
    exact hpass.cuts.trans (ih hmore)

/-- The name behind a colon, or behind two, is cut only at the spaces of its codes. -/
theorem Spells.mem_cuts_colon {colon w n gap rest u : Text} (h : Spells w n gap rest)
    (hcolon : Perhaps ':' colon (w ++ (gap ++ rest))) (hs : OnlySpaces w)
    (hu : u ∈ cuts (':' :: (colon ++ (w ++ (gap ++ rest))))) :
    u ∈ cuts rest ∨ FollowsCode (':' :: (colon ++ (w ++ (gap ++ rest)))) u := by
  have hcolons : ∀ c ∈ ':' :: colon, c ∈ ['.', '#', ':'] := by
    rcases hcolon with rfl | ⟨rfl, -⟩ <;> simp
  have hpass := cuts_append_of_sign hcolons (w ++ (gap ++ rest))
  exact (h.mem_cuts hs (hpass ▸ hu)).imp_right fun hcode => hcode.append (':' :: colon)

/-- What the reader takes is cut only at the spaces of codes, or it is a combinator. -/
theorem Takes.mem_cuts {front rest u : Text} {found : List SimpleSelector}
    (h : Takes front found rest) (hs : OnlySpaces front) (hparen : front.head? ≠ some '(')
    (hu : u ∈ cuts (front ++ rest)) :
    u ∈ cuts rest ∨ u = front ++ rest ∨ FollowsCode (front ++ rest) u := by
  cases h with
  | @named sign make w n gap rest hsign h =>
    have hmem : ∀ c ∈ [sign], c ∈ ['.', '#', ':'] := by
      cases hsign <;> simp
    have hw : OnlySpaces w := hs.of_subset fun d hd => List.mem_cons_of_mem sign hd
    have hpass := cuts_append_of_sign hmem (w ++ (gap ++ rest))
    rcases h.mem_cuts hw (hpass ▸ hu) with hu | hcode
    · exact .inl (h.mem_cuts_gap hu)
    · exact .inr (.inr (hcode.append [sign]))
  | tag h _ =>
    rcases h.mem_cuts hs hu with hu | hcode
    · exact .inl (h.mem_cuts_gap hu)
    · exact .inr (.inr hcode)
  | @attr w rest h =>
    have hpass := passes_group (by decide : ('[', ']') ∈ bracketPairs) h
    exact .inl (hpass.cuts ▸ hu)
  | @pseudo colon w n gap rest hcolon h _ =>
    have hw : OnlySpaces w := hs.of_subset fun d hd => by simp [hd]
    have htext : ':' :: (colon ++ (w ++ gap)) ++ rest = ':' :: (colon ++ (w ++ (gap ++ rest))) := by
      simp
    rw [htext] at hu ⊢
    exact (h.mem_cuts_colon hcolon hw hu).imp_right .inr
  | @functional colon w n gap args rest hcolon h hargs =>
    have hw : OnlySpaces w := hs.of_subset fun d hd => by simp [hd]
    have hgroup := passes_group (by decide : ('(', ')') ∈ bracketPairs) hargs
    have htext : ':' :: (colon ++ (w ++ (gap ++ '(' :: args))) ++ rest =
        ':' :: (colon ++ (w ++ (gap ++ '(' :: (args ++ rest)))) := by simp
    rw [htext] at hu ⊢
    rcases h.mem_cuts_colon hcolon hw hu with hu | hcode
    · exact .inl (hgroup.cuts ▸ hu)
    · exact .inr (.inr hcode)
  | @sign c rest hc hnone =>
    by_cases hcut : isCombinator c = true
    · rw [List.singleton_append, cuts_of_isCombinator hcut, List.mem_cons] at hu
      exact hu.symm.imp_right .inl
    · have hopen : c ≠ '[' := fun h => hc (by simp [h])
      have hlone : c = '\\' → rest = [] := by
        rintro rfl
        by_contra hrest
        obtain ⟨d, rest, rfl⟩ := List.exists_cons_of_ne_nil hrest
        exact readName_escape_ne d rest hnone
      have hpass := passes_char hopen (fun h => hparen (congrArg some h)) (by simpa using hcut) hlone
      exact .inl (hpass.cuts ▸ hu)

/-! ## Selectors and their compound selectors -/

/-- If no parenthesis stands alone, the splitter cuts only where the reader stops, or at the space of
a code. -/
theorem mem_stops_or_followsCode {t u : Text} (hs : OnlySpaces t)
    (hparen : ∀ v ∈ stops t, v.head? ≠ some '(') (hu : u ∈ cuts t) :
    u ∈ stops t ∨ FollowsCode t u := by
  induction hlength : t.length using Nat.strong_induction_on generalizing t with
  | _ length ih =>
    by_cases hne : t = []
    · rw [hne, cuts_nil] at hu
      exact absurd hu List.not_mem_nil
    · obtain ⟨front, found, rest, rfl, h⟩ := exists_takes hne
      have hpos := List.length_pos_iff.2 h.ne_nil
      rw [List.length_append] at hlength
      rw [h.stops_append] at hparen ⊢
      obtain ⟨hfirst, hmore⟩ := List.forall_mem_cons.1 hparen
      have hhead : front.head? ≠ some '(' := by
        intro heq
        rw [List.head?_append, heq] at hfirst
        exact hfirst rfl
      have hfront : OnlySpaces front := hs.of_subset fun c hc => by simp [hc]
      have hrest : OnlySpaces rest := hs.of_subset fun c hc => by simp [hc]
      rcases h.mem_cuts hfront hhead hu with hu | rfl | hcode
      · exact (ih rest.length (by omega) hrest hmore hu rfl).imp (List.mem_cons_of_mem _)
          fun hcode => hcode.append front
      · exact .inl List.mem_cons_self
      · exact .inr hcode

/-- **A selector is read like its compound selectors** exactly if every cut between them is at a
place where the reader of simple selectors stops as well.  Where no parenthesis stands alone, a cut
that is at no such place is the space behind a hexadecimal code. -/
theorem flatMap_simples_compounds_iff {g s : Text} (hs : s ∈ alternatives g) :
    ((compounds s).flatMap simples = simples s ↔ ∀ u ∈ cuts s, u ∈ stops s) ∧
      ((∀ v ∈ stops s, v.head? ≠ some '(') →
        ∀ u ∈ cuts s, u ∉ stops s → FollowsCode s u) := by
  have hspaces := onlySpaces_of_mem_alternatives hs
  constructor
  · rw [flatMap_simples_compounds]
    exact flatMap_simples_splitCombinators_iff hspaces
  · intro hparen u hu hnot
    exact (mem_stops_or_followsCode hspaces hparen hu).resolve_left hnot

/-- Combinators of all kinds: in the argument of a pseudo-class, in brackets, and behind the code at
the end of a name. -/
theorem flatMap_simples_compounds_iff_code :
    let s := "a\\31 >b::part(x y) .c[d e]:not(.f, g h)".toList
    s ∈ alternatives s ∧ (∀ v ∈ stops s, v.head? ≠ some '(') ∧
      (∀ u ∈ cuts s, u ∉ stops s → FollowsCode s u) ∧
        compounds s =
          ["a\\31".toList, "b::part(x y)".toList, ".c[d e]:not(.f, g h)".toList] ∧
            (compounds s).flatMap simples = simples s := by
  intro s
  have hs : s ∈ alternatives s := by decide +kernel
  have hparen : ∀ v ∈ stops s, v.head? ≠ some '(' := by decide +kernel
  have halike := flatMap_simples_compounds_iff hs
  exact ⟨hs, hparen, halike.2 hparen, by decide +kernel, halike.1.2 (by decide +kernel)⟩

/-- The space behind a code is a cut, but the name goes on behind it.  A bracket in a parenthesis that
stands alone is cut as well. -/
theorem flatMap_simples_compounds_ne :
    let s := ".\\31 b".toList
    let t := "a([) b]c".toList
    s ∈ alternatives s ∧ compounds s = [".\\31".toList, "b".toList] ∧
      simples s = [.className "1b".toList] ∧
        (compounds s).flatMap simples = [.className "1".toList, .tag "b".toList] ∧
          t ∈ alternatives t ∧ (compounds t).flatMap simples ≠ simples t := by
  decide +kernel

end CssTrim.Selector
