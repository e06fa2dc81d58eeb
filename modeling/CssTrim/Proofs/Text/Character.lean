import CssTrim.Text
import CssTrim.Text.Word
import Mathlib.Data.List.Basic

/-!
# Characters and their lower case

Facts about characters that the properties of whole texts rest on.  There are three
groups.

* ASCII characters, of which a fact can be checked one by one.
* Blanks, which are few enough for the same.
* Lower case.  The lower case of a character depends on its neighbours in one case
  only, and is one character long in all cases but one.  So the length of a lower
  case is known, and a text is its own lower case exactly when each of its characters
  is.
-/

namespace CssTrim.Text

/-! ## ASCII characters -/

/-- What holds of the first 128 characters holds of every ASCII character. -/
theorem forall_ascii {p : Char → Prop} (h : ∀ n < 128, p (Char.ofNat n)) :
    ∀ c : Char, c.toNat < 128 → p c := by
  intro c hc
  have hn := h c.toNat hc
  rwa [Char.ofNat_toNat] at hn

theorem toNat_lt_of_le {c d : Char} (h : c ≤ d) (hd : d.toNat < 128) : c.toNat < 128 := by
  have hle : c.toNat ≤ d.toNat := h
  omega

theorem toNat_lt_of_hexValue? {d : Char} (h : (hexValue? d).isSome = true) : d.toNat < 128 := by
  unfold hexValue? at h
  split at h
  · exact toNat_lt_of_le (d := '9') (‹_ ∧ _›).2 (by decide)
  · split at h
    · exact toNat_lt_of_le (d := 'f') (‹_ ∧ _›).2 (by decide)
    · split at h
      · exact toNat_lt_of_le (d := 'F') (‹_ ∧ _›).2 (by decide)
      · simp at h

theorem toNat_lt_of_isAsciiLetter {c : Char} (h : isAsciiLetter c = true) : c.toNat < 128 := by
  have hletter : (c.isUpper || c.isLower) = true := h
  rw [Bool.or_eq_true] at hletter
  rcases hletter with hupper | hlower
  · have hrange : c ≥ 'A' ∧ c ≤ 'Z' := of_decide_eq_true hupper
    exact toNat_lt_of_le (d := 'Z') hrange.2 (by decide)
  · have hrange : (decide (c ≥ 'a') && decide (c ≤ 'z')) = true := hlower
    rw [Bool.and_eq_true, decide_eq_true_eq, decide_eq_true_eq] at hrange
    exact toNat_lt_of_le (d := 'z') hrange.2 (by decide)

/-! ## Blanks -/

/-- A code point in a table lies in one of its ranges. -/
theorem exists_of_inRanges {n : Nat} {ranges : List Range} (h : inRanges n ranges = true) :
    ∃ range ∈ ranges, range.1 ≤ n ∧ n ≤ range.2 := by
  induction ranges with
  | nil => cases h
  | cons range ranges ih =>
    obtain ⟨low, high⟩ := range
    rw [inRanges] at h
    split at h
    · cases h
    · rename_i hlow
      split at h
      · rename_i hhigh
        exact ⟨_, List.mem_cons_self, Nat.le_of_not_lt hlow, hhigh⟩
      · obtain ⟨range, hmem, hrange⟩ := ih h
        exact ⟨range, List.mem_cons_of_mem _ hmem, hrange⟩

/-- What holds of the characters in the table of blanks holds of every blank. -/
theorem forall_blank {p : Char → Prop}
    (h : ∀ range ∈ blankRanges, ∀ n ∈ List.range' range.1 (range.2 + 1 - range.1),
      p (Char.ofNat n)) :
    ∀ c : Char, isBlank c = true → p c := by
  intro c hc
  obtain ⟨range, hrange, hlow, hhigh⟩ := exists_of_inRanges hc
  have hn : c.toNat ∈ List.range' range.1 (range.2 + 1 - range.1) := by
    rw [List.mem_range'_1]
    omega
  have hp := h range hrange c.toNat hn
  rwa [Char.ofNat_toNat] at hp

/-- No blank is a character of a word. -/
theorem isWordChar_of_isBlank {c : Char} (h : isBlank c = true) : isWordChar c = false := by
  refine forall_blank (p := fun c => isWordChar c = false) ?_ c h
  decide +kernel

/-! ## Lower case -/

/-- The image of one character in the lower case of a text. -/
theorem exists_lowerAfter_cons (before : List Char) (c : Char) (t : List Char) :
    ∃ image, lowerAfter before (c :: t) = image ++ lowerAfter (c :: before) t ∧
      (c = 'İ' → image.length = 2) ∧
        (c ≠ 'İ' → ∃ d, image = [d] ∧ (d = c ↔ c ≠ 'Σ' ∧ lowerChar c = c)) := by
  refine ⟨_, by rw [lowerAfter], ?_, ?_⟩
  · rintro rfl
    rfl
  · intro hdotted
    by_cases hsigma : c = 'Σ'
    · subst hsigma
      rw [if_pos rfl]
      split
      · exact ⟨'ς', rfl, by decide⟩
      · exact ⟨'σ', rfl, by decide⟩
    · rw [if_neg hsigma, if_neg hdotted]
      exact ⟨lowerChar c, rfl, by simp [hsigma]⟩

theorem length_lowerAfter (before t : List Char) :
    (lowerAfter before t).length = t.length + t.count 'İ' := by
  induction t generalizing before with
  | nil => rfl
  | cons c t ih =>
    obtain ⟨image, himage, htwo, hone⟩ := exists_lowerAfter_cons before c t
    rw [himage, List.length_append, ih, List.length_cons]
    by_cases hc : c = 'İ'
    · rw [htwo hc, hc, List.count_cons_self]
      omega
    · obtain ⟨d, rfl, -⟩ := hone hc
      rw [List.count_cons_of_ne hc, List.length_singleton]
      omega

/-- Only a capital i with a dot has a lower case of two characters. -/
theorem length_lower (t : List Char) : (lower t).length = t.length + t.count 'İ' :=
  length_lowerAfter [] t

/-- Whether a character is its own lower case wherever it stands. -/
def isLowered (c : Char) : Bool := c != 'Σ' && c != 'İ' && lowerChar c == c

theorem lowerAfter_eq_self_iff {before t : List Char} :
    lowerAfter before t = t ↔ ∀ c ∈ t, isLowered c = true := by
  induction t generalizing before with
  | nil => simp [lowerAfter]
  | cons c t ih =>
    obtain ⟨image, himage, htwo, hone⟩ := exists_lowerAfter_cons before c t
    rw [himage, List.forall_mem_cons]
    by_cases hc : c = 'İ'
    · have hlonger : image ++ lowerAfter (c :: before) t ≠ c :: t := by
        intro heq
        have hlength := congrArg List.length heq
        rw [List.length_append, htwo hc, length_lowerAfter, List.length_cons] at hlength
        omega
      have hraised : isLowered c = false := by
        rw [hc]
        decide
      simp [hlonger, hraised]
    · obtain ⟨d, rfl, hd⟩ := hone hc
      rw [List.singleton_append, List.cons.injEq, ih, hd]
      simp [isLowered, hc]

/-- A text is its own lower case exactly when its characters are. -/
theorem lower_eq_self_iff {t : List Char} : lower t = t ↔ ∀ c ∈ t, isLowered c = true :=
  lowerAfter_eq_self_iff

/-- Whether a character has the lower case that ASCII gives it, wherever it stands. -/
def lowersAlone (c : Char) : Bool := c != 'Σ' && c != 'İ' && lowerChar c == c.toLower

theorem lowersAlone_of_ascii : ∀ c : Char, c.toNat < 128 → lowersAlone c = true :=
  forall_ascii (by decide +kernel)

theorem lowersAlone_of_isBlank : ∀ c : Char, isBlank c = true → lowersAlone c = true :=
  forall_blank (by decide +kernel)

/-- Without letters outside of ASCII, the lower case is made letter by letter. -/
theorem lower_eq_map {t : List Char} (h : ∀ c ∈ t, lowersAlone c = true) :
    lower t = t.map Char.toLower := by
  have hafter : ∀ before, lowerAfter before t = t.map Char.toLower := by
    induction t with
    | nil => exact fun _ => rfl
    | cons c t ih =>
      intro before
      obtain ⟨hc, ht⟩ := List.forall_mem_cons.1 h
      rw [lowersAlone, Bool.and_eq_true, Bool.and_eq_true, bne_iff_ne, bne_iff_ne, beq_iff_eq] at hc
      rw [lowerAfter, if_neg hc.1.1, if_neg hc.1.2, hc.2, ih ht]
      rfl
  exact hafter []

end CssTrim.Text
