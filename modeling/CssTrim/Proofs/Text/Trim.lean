import CssTrim.Text
import Mathlib.Data.List.DropRight

/-!
# Texts that are put together

What `trimStart`, `trimEnd` and `trim` do to a text that is put together from
two parts, and how texts are joined.  There are five groups.

* Parts that are blank.  Such a part at an end does not change the trimmed text.
* Parts that hold something else.  `trimEnd` works on the last such part only.
* What trimming leaves.  It has no blanks at its ends, and it is empty exactly
  when the text is blank.  Without its blanks the text is the same.
* Both ends.  Of two parts, `trim` works on the front of the first and on the
  end of the last.
* Joining, one text after the other.
-/

namespace CssTrim.Text

/-! ## Blank parts -/

theorem isBlankText_append (s t : Text) :
    isBlankText (s ++ t) = (isBlankText s && isBlankText t) := List.all_append

theorem isBlankText_cons (c : Char) (t : Text) :
    isBlankText (c :: t) = (isBlank c && isBlankText t) := List.all_cons

theorem forall_isBlank_of_isBlankText {w : Text} (h : isBlankText w) : ∀ c ∈ w, isBlank c :=
  List.all_eq_true.1 h

/-- Blanks in front do not count. -/
theorem trimStart_append_of_isBlankText {w : Text} (hw : isBlankText w) (t : Text) :
    trimStart (w ++ t) = trimStart t :=
  List.dropWhile_append_of_pos (forall_isBlank_of_isBlankText hw)

theorem trim_append_of_isBlankText {w : Text} (hw : isBlankText w) (t : Text) :
    trim (w ++ t) = trim t := by
  rw [trim, trim, trimStart_append_of_isBlankText hw]

/-- A text that starts with something else than a blank has nothing to lose in front. -/
theorem trimStart_cons {c : Char} (hc : isBlank c = false) (t : Text) :
    trimStart (c :: t) = c :: t := by
  rw [trimStart, List.dropWhile_cons, hc]
  rfl

theorem trim_cons {c : Char} (hc : isBlank c = false) (t : Text) :
    trim (c :: t) = trimEnd (c :: t) := by
  rw [trim, trimStart_cons hc]

/-! ## The end of a text -/

theorem trimEnd_eq_rdropWhile (t : Text) : trimEnd t = t.rdropWhile isBlank := rfl

theorem trimEnd_prefix (t : Text) : trimEnd t <+: t := List.rdropWhile_prefix isBlank t

/-- A text is blank exactly when nothing is left of it. -/
theorem trimEnd_eq_nil_iff {t : Text} : trimEnd t = [] ↔ isBlankText t := by
  rw [trimEnd_eq_rdropWhile, List.rdropWhile_eq_nil_iff, isBlankText, List.all_eq_true]

/-- Blanks at the end do not count. -/
theorem trimEnd_append_of_isBlankText (t : Text) {w : Text} (hw : isBlankText w) :
    trimEnd (t ++ w) = trimEnd t := by
  rw [trimEnd, List.reverse_append, List.dropWhile_append_of_pos, trimEnd]
  intro c hc
  exact forall_isBlank_of_isBlankText hw c (List.mem_reverse.1 hc)

/-- Only the last part that holds something else is trimmed. -/
theorem trimEnd_append_of_not_isBlankText (s : Text) {t : Text} (ht : isBlankText t = false) :
    trimEnd (s ++ t) = s ++ trimEnd t := by
  have hne : (t.reverse.dropWhile isBlank).isEmpty = false := by
    rw [List.isEmpty_eq_false_iff]
    intro hnil
    have hblank : isBlankText t := trimEnd_eq_nil_iff.1 (by rw [trimEnd, hnil]; rfl)
    rw [ht] at hblank
    exact Bool.false_ne_true hblank
  rw [trimEnd, List.reverse_append, List.dropWhile_append, hne, trimEnd]
  simp

theorem trimEnd_cons {c : Char} (hc : isBlank c = false) (t : Text) :
    trimEnd (c :: t) = c :: trimEnd t := by
  cases hb : isBlankText t with
  | true =>
    have hnil : trimEnd t = [] := trimEnd_eq_nil_iff.2 hb
    rw [hnil, ← List.singleton_append, trimEnd_append_of_isBlankText [c] hb,
      trimEnd_eq_rdropWhile, List.rdropWhile_singleton, hc]
    rfl
  | false => exact trimEnd_append_of_not_isBlankText [c] hb

/-- A text that ends with something else than a blank has nothing to lose at its end. -/
theorem trimEnd_concat (t : Text) {c : Char} (hc : isBlank c = false) :
    trimEnd (t ++ [c]) = t ++ [c] := by
  rw [trimEnd_eq_rdropWhile, List.rdropWhile_concat_neg]
  rw [hc]
  exact Bool.false_ne_true

/-! ## What is left -/

/-- A text is the blanks in front of it and what is left of it. -/
theorem trimStart_append (t : Text) : ∃ w, isBlankText w ∧ t = w ++ trimStart t :=
  ⟨t.takeWhile isBlank, List.all_takeWhile, List.takeWhile_append_dropWhile.symm⟩

/-- What trimming leaves has no blanks in front. -/
theorem trimStart_trimEnd_trimStart (t : Text) :
    trimStart (trimEnd (trimStart t)) = trimEnd (trimStart t) := by
  cases hs : trimStart t with
  | nil => rfl
  | cons c r =>
    have hc : isBlank c = false := by
      have hhead := List.head?_dropWhile_not isBlank t
      rw [show t.dropWhile isBlank = c :: r from hs] at hhead
      exact hhead
    rw [trimEnd_cons hc, trimStart_cons hc]

theorem trim_trim (t : Text) : trim (trim t) = trim t := by
  rw [trim, trim, trimStart_trimEnd_trimStart, trimEnd_eq_rdropWhile, trimEnd_eq_rdropWhile,
    List.rdropWhile_idempotent]

theorem trim_eq_nil_iff {t : Text} : trim t = [] ↔ isBlankText t := by
  obtain ⟨w, hw, ht⟩ := trimStart_append t
  rw [trim, trimEnd_eq_nil_iff]
  conv_rhs => rw [ht, isBlankText_append, hw, Bool.true_and]

/-- A text that has nothing to lose has nothing to lose in front. -/
theorem trimStart_eq_self {t : Text} (h : trim t = t) : trimStart t = t := by
  have hsuffix : trimStart t <:+ t := List.dropWhile_suffix isBlank
  have hprefix : trim t <+: trimStart t := trimEnd_prefix _
  have hend := hprefix.length_le
  rw [h] at hend
  exact hsuffix.eq_of_length_le hend

theorem trimEnd_eq_self {t : Text} (h : trim t = t) : trimEnd t = t := by
  rw [trim, trimStart_eq_self h] at h
  exact h

/-- Nothing is left of a blank text, so a text that has nothing to lose is not blank. -/
theorem isBlankText_eq_false {t : Text} (h : trim t = t) (hne : t ≠ []) :
    isBlankText t = false := by
  rw [Bool.eq_false_iff]
  intro hblank
  rw [trim_eq_nil_iff.2 hblank] at h
  exact hne h.symm

/-- Trimming takes blanks off both ends and nothing else. -/
theorem exists_append_trim_append (t : Text) :
    ∃ v w, isBlankText v ∧ isBlankText w ∧ t = v ++ (trim t ++ w) := by
  obtain ⟨v, hv, ht⟩ := trimStart_append t
  have hw : isBlankText ((trimStart t).rtakeWhile isBlank) := by
    rw [isBlankText, List.all_eq_true]
    exact fun c hc => List.mem_rtakeWhile_imp hc
  have hend : trim t ++ (trimStart t).rtakeWhile isBlank = trimStart t :=
    List.rdropWhile_append_rtakeWhile
  exact ⟨v, _, hv, hw, by rw [hend, ← ht]⟩

/-- A text without its blanks. -/
def withoutBlanks (t : Text) : Text := t.filter (!isBlank ·)

theorem withoutBlanks_append (s t : Text) :
    withoutBlanks (s ++ t) = withoutBlanks s ++ withoutBlanks t := by
  simp only [withoutBlanks, List.filter_append]

theorem withoutBlanks_of_isBlankText {w : Text} (hw : isBlankText w) : withoutBlanks w = [] := by
  rw [withoutBlanks, List.filter_eq_nil_iff]
  intro c hc
  rw [forall_isBlank_of_isBlankText hw c hc]
  exact Bool.false_ne_true

/-- Trimming takes off nothing else. -/
theorem withoutBlanks_trim (t : Text) : withoutBlanks (trim t) = withoutBlanks t := by
  obtain ⟨v, w, hv, hw, ht⟩ := exists_append_trim_append t
  conv_rhs => rw [ht, withoutBlanks_append, withoutBlanks_append, withoutBlanks_of_isBlankText hv,
    withoutBlanks_of_isBlankText hw, List.nil_append, List.append_nil]

/-! ## Both ends -/

/-- Only the first part that holds something else is trimmed in front. -/
theorem trimStart_append_of_not_isBlankText {s : Text} (hs : isBlankText s = false) (t : Text) :
    trimStart (s ++ t) = trimStart s ++ t := by
  have hne : (s.dropWhile isBlank).isEmpty = false := by
    rw [List.isEmpty_eq_false_iff]
    intro hnil
    have hblank : isBlankText s := List.all_eq_true.2 (List.dropWhile_eq_nil_iff.1 hnil)
    rw [hs] at hblank
    exact Bool.false_ne_true hblank
  rw [trimStart, List.dropWhile_append, hne, trimStart]
  simp

/-- Of two parts that hold something else, the first is trimmed in front and the last at its end. -/
theorem trim_append {s t : Text} (hs : isBlankText s = false) (ht : isBlankText t = false) :
    trim (s ++ t) = trimStart s ++ trimEnd t := by
  rw [trim, trimStart_append_of_not_isBlankText hs, trimEnd_append_of_not_isBlankText _ ht]

theorem trim_append_right_of_isBlankText (t : Text) {w : Text} (hw : isBlankText w) :
    trim (t ++ w) = trim t := by
  cases ht : isBlankText t with
  | true =>
    have hboth : isBlankText (t ++ w) = true := by rw [isBlankText_append, ht, hw]; rfl
    rw [trim_eq_nil_iff.2 hboth, trim_eq_nil_iff.2 ht]
  | false =>
    rw [trim, trimStart_append_of_not_isBlankText ht, trimEnd_append_of_isBlankText _ hw, trim]

/-! ## Joining -/

@[simp] theorem joinWith_nil (sep : Text) : joinWith sep [] = [] := rfl

@[simp] theorem joinWith_singleton (sep t : Text) : joinWith sep [t] = t :=
  List.intercalate_singleton

theorem joinWith_cons_cons (sep t s : Text) (ts : List Text) :
    joinWith sep (t :: s :: ts) = t ++ (sep ++ joinWith sep (s :: ts)) := by
  rw [joinWith, List.intercalate_cons_cons, List.append_assoc, joinWith]

theorem joinWith_ne_nil (sep : Text) {ts : List Text} (h : ∀ t ∈ ts, t ≠ []) (hne : ts ≠ []) :
    joinWith sep ts ≠ [] := by
  obtain ⟨t, ts, rfl⟩ := List.exists_cons_of_ne_nil hne
  have ht : t ≠ [] := h t List.mem_cons_self
  cases ts with
  | nil => rwa [joinWith_singleton]
  | cons s ts =>
    rw [joinWith_cons_cons]
    exact List.append_ne_nil_of_left_ne_nil ht _

theorem joinWith_append {sep : Text} {ts us : List Text} (hts : ts ≠ []) (hus : us ≠ []) :
    joinWith sep (ts ++ us) = joinWith sep ts ++ (sep ++ joinWith sep us) := by
  obtain ⟨u, us, rfl⟩ := List.exists_cons_of_ne_nil hus
  induction ts with
  | nil => exact absurd rfl hts
  | cons t ts ih =>
    cases ts with
    | nil => rw [List.singleton_append, joinWith_cons_cons, joinWith_singleton]
    | cons s ts =>
      have hih := ih (List.cons_ne_nil s ts)
      rw [List.cons_append] at hih
      rw [List.cons_append, List.cons_append, joinWith_cons_cons, hih, joinWith_cons_cons,
        List.append_assoc, List.append_assoc]

/-- Texts that are not empty can be joined in two goes, if no empty result is joined. -/
theorem joinWith_filter_append (sep : Text) {ts us : List Text} (hts : ∀ t ∈ ts, t ≠ [])
    (hus : ∀ t ∈ us, t ≠ []) :
    joinWith sep (ts ++ us) =
      joinWith sep ([joinWith sep ts, joinWith sep us].filter (!·.isEmpty)) := by
  by_cases hfront : ts = []
  · subst hfront
    by_cases hback : us = []
    · subst hback
      rfl
    · have hjoin := joinWith_ne_nil sep hus hback
      simp [hjoin]
  · have hjoin := joinWith_ne_nil sep hts hfront
    by_cases hback : us = []
    · subst hback
      simp [hjoin]
    · have hjoin' := joinWith_ne_nil sep hus hback
      simp [hjoin, hjoin', joinWith_append hfront hback, joinWith_cons_cons]

/-- Texts that have nothing to lose have nothing to lose when they are joined. -/
theorem trim_joinWith (sep : Text) {ts : List Text} (h : ∀ t ∈ ts, trim t = t ∧ t ≠ []) :
    trim (joinWith sep ts) = joinWith sep ts := by
  induction ts with
  | nil => rfl
  | cons t ts ih =>
    obtain ⟨ht, htail⟩ := List.forall_mem_cons.1 h
    cases ts with
    | nil =>
      rw [joinWith_singleton]
      exact ht.1
    | cons s ts =>
      have htrim := ih htail
      have hne : joinWith sep (s :: ts) ≠ [] :=
        joinWith_ne_nil sep (fun t hmem => (htail t hmem).2) (List.cons_ne_nil s ts)
      have hsolid := isBlankText_eq_false htrim hne
      have hrest : isBlankText (sep ++ joinWith sep (s :: ts)) = false := by
        rw [isBlankText_append, hsolid, Bool.and_false]
      rw [joinWith_cons_cons, trim_append (isBlankText_eq_false ht.1 ht.2) hrest,
        trimStart_eq_self ht.1, trimEnd_append_of_not_isBlankText sep hsolid, trimEnd_eq_self htrim]

end CssTrim.Text
