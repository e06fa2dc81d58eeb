import CssTrim.Proofs.Text.Trim
import CssTrim.Text.Recognizer

/-!
# Where phrases are found

A search goes through a text from its front and jumps over the phrases that it
finds.  This module says without a search which phrases it finds.  There are
four groups.

* Readers.  Each of them takes a front part off a text, and says something about
  this part.
* Places.  `places` are the positions of a text, each as the character before it
  and the text from there on.
* `Recognizer.mem_findAll`: a phrase is found unless an earlier one covers the
  place where it starts.  `Recognizer.replaceAll_eq_self`: without a phrase nothing
  changes.
* Recognizers that only look ahead.  A search with one of them can be taken in
  steps, each at the front of a text.
-/

namespace CssTrim

namespace Text

/-! ## What readers take -/

theorem trimStart_suffix (t : Text) : trimStart t <:+ t := List.dropWhile_suffix isBlank

theorem after?_eq_some_iff {start t rest : Text} :
    after? start t = some rest ↔ t = start ++ rest := by
  unfold after?
  split
  · rename_i h
    obtain ⟨more, rfl⟩ := List.isPrefixOf_iff_prefix.1 h
    rw [List.drop_left, Option.some.injEq, List.append_cancel_left_eq]
  · rename_i h
    constructor
    · intro hnone
      cases hnone
    · rintro rfl
      exact absurd (List.isPrefixOf_iff_prefix.2 (List.prefix_append start rest)) h

theorem one?_eq_some_iff {p : Char → Bool} {t rest : Text} {c : Char} :
    one? p t = some (c, rest) ↔ t = c :: rest ∧ p c = true := by
  cases t with
  | nil => simp [one?]
  | cons d t =>
    rw [one?]
    by_cases hd : p d = true
    · rw [if_pos hd, Option.some.injEq, Prod.mk.injEq, List.cons.injEq]
      exact ⟨fun h => ⟨h, h.1 ▸ hd⟩, fun h => h.1⟩
    · rw [if_neg hd, List.cons.injEq]
      refine iff_of_false (by simp) ?_
      rintro ⟨⟨rfl, -⟩, hc⟩
      exact hd hc

theorem occursIn_iff {part t : Text} : occursIn part t = true ↔ part <:+: t := by
  induction t with
  | nil => rw [occursIn, List.isEmpty_iff, List.infix_nil]
  | cons c t ih =>
    rw [occursIn, Bool.or_eq_true, List.isPrefixOf_iff_prefix, ih, List.infix_cons_iff]

/-- What does not occur in a text does not occur in a part of it. -/
theorem occursIn_eq_false_of_infix {part t u : Text} (htu : t <:+: u)
    (hu : occursIn part u = false) : occursIn part t = false := by
  by_contra ht
  rw [Bool.not_eq_false, occursIn_iff] at ht
  rw [occursIn_iff.2 (ht.trans htu)] at hu
  exact Bool.noConfusion hu

/-- A cut at the first character of a class is read off the parts. -/
theorem takeWhile_dropWhile_append_cons {p : Char → Bool} {value : Text} {c : Char}
    (hvalue : ∀ d ∈ value, p d = true) (hc : p c = false) (rest : Text) :
    (value ++ c :: rest).takeWhile p = value ∧ (value ++ c :: rest).dropWhile p = c :: rest := by
  rw [List.takeWhile_append_of_pos hvalue, List.dropWhile_append_of_pos hvalue,
    List.takeWhile_cons_of_neg (by simp [hc]), List.dropWhile_cons_of_neg (by simp [hc]),
    List.append_nil]
  exact ⟨rfl, rfl⟩

/-- Where a cut leaves something, it is at the first character of the class. -/
theorem dropWhile_eq_cons {p : Char → Bool} {t rest : Text} {c : Char}
    (h : t.dropWhile p = c :: rest) :
    t = t.takeWhile p ++ c :: rest ∧ (∀ d ∈ t.takeWhile p, p d = true) ∧ p c = false := by
  have happ := List.takeWhile_append_dropWhile (p := p) (l := t)
  have hhead := List.head?_dropWhile_not p t
  rw [h] at happ hhead
  exact ⟨happ.symm, fun d hd => List.mem_takeWhile_imp hd, hhead⟩

theorem upTo?_eq_some_iff {stop : Char → Bool} {t value rest : Text} :
    upTo? stop t = some (value, rest) ↔
      ∃ c, stop c = true ∧ (∀ d ∈ value, stop d = false) ∧ t = value ++ c :: rest := by
  constructor
  · intro h
    rw [upTo?] at h
    split at h
    · rename_i c left hdrop
      obtain ⟨rfl, rfl⟩ := Prod.mk.inj (Option.some.inj h)
      obtain ⟨happ, hvalue, hc⟩ := dropWhile_eq_cons hdrop
      refine ⟨c, by simpa using hc, ?_, happ⟩
      intro d hd
      simpa using hvalue d hd
    · cases h
  · rintro ⟨c, hc, hvalue, rfl⟩
    have hpos : ∀ d ∈ value, (!stop d) = true := fun d hd => by rw [hvalue d hd]; rfl
    obtain ⟨htake, hdrop⟩ := takeWhile_dropWhile_append_cons hpos (by rw [hc]; rfl) rest
    rw [upTo?, hdrop, htake]

/-- An equals sign is read with the blanks around it. -/
theorem equals?_eq_some_iff {t rest : Text} :
    equals? t = some rest ↔
      ∃ w r, isBlankText w ∧ t = w ++ '=' :: r ∧ trimStart r = rest := by
  rw [equals?, Option.map_eq_some_iff]
  constructor
  · rintro ⟨r, hr, rfl⟩
    obtain ⟨w, hw, ht⟩ := trimStart_append t
    rw [after?_eq_some_iff.1 hr] at ht
    exact ⟨w, r, hw, ht, rfl⟩
  · rintro ⟨w, r, hw, rfl, rfl⟩
    have hsign : isBlank '=' = false := by decide
    refine ⟨r, ?_, rfl⟩
    rw [trimStart_append_of_isBlankText hw, trimStart_cons hsign, after?_eq_some_iff]
    rfl

theorem between?_eq_some_iff {qs t value rest : Text} :
    between? qs t = some (value, rest) ↔
      ∃ q ∈ qs, q ∉ value ∧ t = q :: (value ++ q :: rest) := by
  cases t with
  | nil => simp [between?]
  | cons q t =>
    rw [between?]
    by_cases hq : q ∈ qs
    · rw [if_pos (List.contains_iff_mem.2 hq), upTo?_eq_some_iff]
      constructor
      · rintro ⟨c, hc, hvalue, rfl⟩
        obtain rfl := beq_iff_eq.1 hc
        exact ⟨c, hq, fun hmem => by simpa using hvalue c hmem, rfl⟩
      · rintro ⟨c, -, hvalue, heq⟩
        obtain ⟨rfl, rfl⟩ := List.cons.inj heq
        refine ⟨q, beq_self_eq_true q, ?_, rfl⟩
        intro d hd
        rw [beq_eq_false_iff_ne]
        rintro rfl
        exact hvalue hd
    · rw [if_neg (by simpa using hq)]
      constructor
      · intro h
        cases h
      · rintro ⟨c, hc, -, heq⟩
        rw [(List.cons.inj heq).1] at hq
        exact absurd hc hq

/-- No quote of any kind stands in a plain value. -/
theorem plainBetween?_eq_some_iff {qs t value rest : Text} :
    plainBetween? qs t = some (value, rest) ↔
      ∃ q ∈ qs, (∀ d ∈ value, d ∉ qs) ∧ t = q :: (value ++ q :: rest) := by
  cases t with
  | nil => simp [plainBetween?]
  | cons q t =>
    rw [plainBetween?]
    by_cases hq : q ∈ qs
    · rw [if_pos (List.contains_iff_mem.2 hq)]
      constructor
      · intro h
        split at h
        · rename_i c left hdrop
          split at h
          · rename_i hc
            subst hc
            obtain ⟨rfl, rfl⟩ := Prod.mk.inj (Option.some.inj h)
            obtain ⟨happ, hvalue, -⟩ := dropWhile_eq_cons hdrop
            refine ⟨c, hq, ?_, congrArg (c :: ·) happ⟩
            intro d hd
            simpa using hvalue d hd
          · cases h
        · cases h
      · rintro ⟨c, hc, hvalue, heq⟩
        obtain ⟨rfl, rfl⟩ := List.cons.inj heq
        have hpos : ∀ d ∈ value, (!qs.contains d) = true := by
          intro d hd
          simpa using hvalue d hd
        obtain ⟨htake, hdrop⟩ := takeWhile_dropWhile_append_cons hpos (by simpa using hq) rest
        rw [hdrop, htake]
        exact if_pos rfl
    · rw [if_neg (by simpa using hq)]
      constructor
      · intro h
        cases h
      · rintro ⟨c, hc, -, heq⟩
        rw [(List.cons.inj heq).1] at hq
        exact absurd hc hq

/-- A run of characters that are not blank takes nothing off blanks. -/
theorem run_blank_append {p : Char → Bool} (hblank : ∀ d, isBlank d = true → p d = false)
    {c : Char} (hc : p c = false) {w : Text} (hw : isBlankText w) (rest : Text) :
    run p (w ++ c :: rest) = ([], w ++ c :: rest) := by
  cases w with
  | nil => simp [run, hc]
  | cons d w =>
    rw [isBlankText_cons, Bool.and_eq_true] at hw
    simp [run, hblank d hw.1]

/-! ## Places -/

/-- The positions of a text that starts behind the character `before`. -/
def placesFrom (before : Option Char) : Text → List (Option Char × Text)
  | [] => []
  | c :: rest => (before, c :: rest) :: placesFrom (some c) rest

/-- The positions of a text: the character before each, if there is one, and what follows. -/
def places (t : Text) : List (Option Char × Text) := placesFrom none t

theorem mem_placesFrom_iff {before b : Option Char} {t u : Text} :
    (b, u) ∈ placesFrom before t ↔
      u ≠ [] ∧ ∃ front, t = front ++ u ∧ front.getLast?.or before = b := by
  induction t generalizing before with
  | nil =>
    constructor
    · intro h
      exact absurd h List.not_mem_nil
    · rintro ⟨hne, front, ht, -⟩
      exact absurd (List.append_eq_nil_iff.1 ht.symm).2 hne
  | cons c rest ih =>
    rw [placesFrom, List.mem_cons, ih]
    constructor
    · rintro (heq | ⟨hne, front, rfl, rfl⟩)
      · obtain ⟨rfl, rfl⟩ := Prod.mk.inj heq
        exact ⟨List.cons_ne_nil _ _, [], rfl, rfl⟩
      · refine ⟨hne, c :: front, rfl, ?_⟩
        rw [List.getLast?_cons]
        cases front.getLast? <;> rfl
    · rintro ⟨hne, front, ht, rfl⟩
      cases front with
      | nil => exact .inl (Prod.ext rfl ht.symm)
      | cons d front =>
        obtain ⟨rfl, rfl⟩ := List.cons.inj ht
        refine .inr ⟨hne, front, rfl, ?_⟩
        rw [List.getLast?_cons]
        cases front.getLast? <;> rfl

theorem mem_places_iff {b : Option Char} {t u : Text} :
    (b, u) ∈ places t ↔ u ≠ [] ∧ ∃ front, t = front ++ u ∧ front.getLast? = b := by
  rw [places, mem_placesFrom_iff]
  simp only [Option.or_none]

/-- Of two places of a text the later one is a back part of the earlier one. -/
theorem exists_append_of_mem_places {t u v : Text} {b b' : Option Char} (hu : (b, u) ∈ places t)
    (hv : (b', v) ∈ places t) (hlt : u.length < v.length) :
    ∃ front, front ≠ [] ∧ v = front ++ u ∧ front.getLast? = b := by
  obtain ⟨-, before, ht, rfl⟩ := mem_places_iff.1 hu
  obtain ⟨-, before', ht', -⟩ := mem_places_iff.1 hv
  rw [ht] at ht'
  rcases List.append_eq_append_iff.1 ht' with ⟨front, rfl, rfl⟩ | ⟨front, rfl, rfl⟩
  · rw [List.length_append] at hlt
    omega
  · have hfront : front ≠ [] := by
      rintro rfl
      exact absurd hlt (Nat.lt_irrefl _)
    exact ⟨front, hfront, rfl, (List.getLast?_append_of_ne_nil before' hfront).symm⟩

end Text

namespace Recognizer

variable {α : Type} {r : Recognizer α}

/-- The induction over the text.  The next `skip` characters belong to a phrase already found, which
does not reach the place `u`. -/
theorem mem_marks {before b : Option Char} {skip : Nat} {t u : Text} {a : α} {left : Text}
    (hplace : (b, u) ∈ Text.placesFrom before t) (hskip : skip + u.length ≤ t.length)
    (hread : r b u = some (a, left))
    (hclear : ∀ x ∈ Text.placesFrom before t, ∀ p, u.length < x.2.length → r x.1 x.2 = some p →
      u.length ≤ p.2.length) :
    .inr a ∈ marks r before skip t := by
  induction t generalizing before skip with
  | nil => exact absurd hplace List.not_mem_nil
  | cons c rest ih =>
    rw [Text.placesFrom] at hplace hclear
    obtain ⟨hfirst, hrest⟩ := List.forall_mem_cons.1 hclear
    rw [List.length_cons] at hskip
    rcases List.mem_cons.1 hplace with heq | hplace
    · obtain ⟨rfl, rfl⟩ := Prod.mk.inj heq
      rw [List.length_cons] at hskip
      obtain rfl : skip = 0 := by omega
      rw [marks, hread]
      exact List.mem_cons_self
    · obtain ⟨-, front, hfront, -⟩ := Text.mem_placesFrom_iff.1 hplace
      have hlength := congrArg List.length hfront
      rw [List.length_append] at hlength
      cases skip with
      | succ skip =>
        rw [marks]
        exact ih hplace (by omega) hrest
      | zero =>
        rw [marks]
        split
        · rename_i found behind hfound
          have hle : u.length ≤ behind.length :=
            hfirst (found, behind) (by rw [List.length_cons]; omega) hfound
          exact List.mem_cons_of_mem _ (ih hplace (by omega) hrest)
        · exact List.mem_cons_of_mem _ (ih hplace (by omega) hrest)

/-- **What a search finds.**  A phrase is found if no phrase at an earlier place goes on behind the
place where it starts. -/
theorem mem_findAll {b : Option Char} {t u : Text} {a : α} {left : Text}
    (hplace : (b, u) ∈ Text.places t) (hread : r b u = some (a, left))
    (hclear : ∀ x ∈ Text.places t, ∀ p, u.length < x.2.length → r x.1 x.2 = some p →
      u.length ≤ p.2.length) :
    a ∈ r.findAll t := by
  obtain ⟨-, front, hfront, -⟩ := Text.mem_places_iff.1 hplace
  have hlength := congrArg List.length hfront
  rw [List.length_append] at hlength
  rw [findAll, List.mem_filterMap]
  exact ⟨.inr a, mem_marks hplace (by omega) hread hclear, rfl⟩

/-- Nothing is replaced where no phrase is read. -/
theorem replaceAll_eq_self {image t : Text}
    (h : ∀ before u, u <:+ t → r before u = none) : r.replaceAll image t = t := by
  have hmarks : ∀ before, marks r before 0 t = t.map Sum.inl := by
    induction t with
    | nil => exact fun _ => rfl
    | cons c t ih =>
      intro before
      have hrest := ih fun before u hu => h before u (hu.trans (List.suffix_cons c t))
      rw [marks, h before (c :: t) List.suffix_rfl, List.map_cons]
      exact congrArg (Sum.inl c :: ·) (hrest (some c))
  rw [replaceAll, substitute, hmarks, List.flatMap_map]
  exact List.flatMap_singleton' t

/-! ## Recognizers that only look ahead -/

/-- Whether the character before a phrase does not matter. -/
def LooksAhead (r : Recognizer α) : Prop := ∀ before t, r before t = r none t

namespace LooksAhead

/-- A search behind a phrase is a search of its own. -/
theorem marks_eq (h : r.LooksAhead) (before : Option Char) (skip : Nat) (t : Text) :
    marks r before skip t = marks r none 0 (t.drop skip) := by
  induction t generalizing before skip with
  | nil => rw [List.drop_nil, marks, marks]
  | cons c t ih =>
    cases skip with
    | succ skip => rw [marks, ih, List.drop_succ_cons]
    | zero => rw [List.drop_zero, marks, marks, h before]

theorem marks_of_none (h : r.LooksAhead) {c : Char} {t : Text} (hread : r none (c :: t) = none) :
    marks r none 0 (c :: t) = .inl c :: marks r none 0 t := by
  rw [marks, hread, h.marks_eq, List.drop_zero]

theorem marks_of_some (h : r.LooksAhead) {c : Char} {front left : Text} {a : α}
    (hread : r none (c :: (front ++ left)) = some (a, left)) :
    marks r none 0 (c :: (front ++ left)) = .inr a :: marks r none 0 left := by
  have hbehind : marks r (some c) ((front ++ left).length - left.length) (front ++ left) =
      marks r none 0 left := by
    rw [h.marks_eq, List.length_append, Nat.add_sub_cancel, List.drop_left]
  rw [marks, hread]
  exact congrArg (.inr a :: ·) hbehind

theorem findAll_of_none (h : r.LooksAhead) {c : Char} {t : Text} (hread : r none (c :: t) = none) :
    r.findAll (c :: t) = r.findAll t := by
  rw [findAll, h.marks_of_none hread]
  rfl

theorem findAll_of_some (h : r.LooksAhead) {c : Char} {front left : Text} {a : α}
    (hread : r none (c :: (front ++ left)) = some (a, left)) :
    r.findAll (c :: (front ++ left)) = a :: r.findAll left := by
  rw [findAll, h.marks_of_some hread]
  rfl

theorem replaceAll_of_none (h : r.LooksAhead) {c : Char} {t : Text}
    (hread : r none (c :: t) = none) (image : Text) :
    r.replaceAll image (c :: t) = c :: r.replaceAll image t := by
  rw [replaceAll, substitute, h.marks_of_none hread]
  rfl

theorem replaceAll_of_some (h : r.LooksAhead) {c : Char} {front left : Text} {a : α}
    (hread : r none (c :: (front ++ left)) = some (a, left)) (image : Text) :
    r.replaceAll image (c :: (front ++ left)) = image ++ r.replaceAll image left := by
  rw [replaceAll, substitute, h.marks_of_some hread]
  rfl

end LooksAhead

end Recognizer

end CssTrim
