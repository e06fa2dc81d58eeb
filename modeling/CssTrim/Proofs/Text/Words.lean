import CssTrim.Proofs.Text.Trim

/-!
# Words one space apart

Squeezing changes nothing about a text whose blanks are single spaces between
words.  `Spaced` says that a text is of this form, along the text, so that it is
easy to tell of a text that is put together.  There are four groups.

* Pieces: what is in the pieces of a text that has been cut, where it falls
  apart, and how pieces are joined.
* What is spaced: a word, and spaced texts behind each other, with or without a
  space between them.
* What squeezing does.  `Spaced.squeeze_eq` is the main statement.
* Squeezing in one pass.  `squeeze_cons_eq` does without words, so that a
  squeezed text can be followed character by character.
-/

namespace CssTrim.Text

/-! ## Pieces -/

/-- The pieces of a text hold nothing else than the text, and no separator. -/
theorem mem_of_mem_splitOn {p : Char → Bool} {t w : Text} (hw : w ∈ splitOn p t) {c : Char}
    (hc : c ∈ w) : c ∈ t ∧ p c = false := by
  induction t generalizing w with
  | nil =>
    obtain rfl := List.mem_singleton.1 hw
    exact absurd hc List.not_mem_nil
  | cons d t ih =>
    have hrest : ∀ {v : Text}, v ∈ splitOn p t → c ∈ v → c ∈ d :: t ∧ p c = false :=
      fun hv hcv => ⟨List.mem_cons_of_mem d (ih hv hcv).1, (ih hv hcv).2⟩
    rw [splitOn] at hw
    split at hw
    · rcases List.mem_cons.1 hw with rfl | hw
      · exact absurd hc List.not_mem_nil
      · exact hrest hw hc
    · rename_i hd
      cases hpieces : splitOn p t with
      | nil =>
        rw [hpieces] at hw
        exact absurd hw List.not_mem_nil
      | cons piece pieces =>
        rw [hpieces, List.modifyHead_cons] at hw
        rw [hpieces] at hrest
        rcases List.mem_cons.1 hw with rfl | hw
        · rcases List.mem_cons.1 hc with rfl | hc
          · exact ⟨List.mem_cons_self, Bool.not_eq_true _ ▸ hd⟩
          · exact hrest List.mem_cons_self hc
        · exact hrest (List.mem_cons_of_mem piece hw) hc

theorem splitOn_ne_nil (p : Char → Bool) (t : Text) : splitOn p t ≠ [] := by
  induction t with
  | nil => exact List.cons_ne_nil _ _
  | cons c t ih =>
    rw [splitOn]
    split
    · exact List.cons_ne_nil _ _
    · rwa [Ne, List.modifyHead_eq_nil_iff]

/-- A character that is no separator belongs to the first piece. -/
theorem splitOn_cons_of_not {p : Char → Bool} {c : Char} (hc : p c = false) (t : Text) :
    splitOn p (c :: t) = (splitOn p t).modifyHead (c :: ·) := by
  rw [splitOn, hc, if_neg Bool.false_ne_true]

/-- A text falls apart at a separator. -/
theorem splitOn_append_cons {p : Char → Bool} {c : Char} (hc : p c = true) (s t : Text) :
    splitOn p (s ++ c :: t) = splitOn p s ++ splitOn p t := by
  induction s with
  | nil =>
    have hstart : splitOn p (c :: t) = [] :: splitOn p t := by rw [splitOn, if_pos hc]
    exact hstart
  | cons d s ih =>
    rw [List.cons_append, splitOn, splitOn, ih]
    split
    · rfl
    · obtain ⟨piece, pieces, hpieces⟩ := List.exists_cons_of_ne_nil (splitOn_ne_nil p s)
      rw [hpieces]
      rfl

/-- The words of joined texts are the words of each. -/
theorem words_joinWith {c : Char} (hc : isBlank c = true) (ts : List Text) :
    words (joinWith [c] ts) = ts.flatMap words := by
  induction ts with
  | nil => rfl
  | cons t ts ih =>
    cases ts with
    | nil => rw [joinWith_singleton, List.flatMap_singleton]
    | cons s ts =>
      rw [joinWith_cons_cons, List.singleton_append, words, splitOn_append_cons hc,
        List.filter_append, ← words, ← words, ih]
      rfl

/-- A text in front of joined texts belongs to the first of them. -/
theorem joinWith_modifyHead_append (sep s : Text) {ts : List Text} (hts : ts ≠ []) :
    joinWith sep (ts.modifyHead (s ++ ·)) = s ++ joinWith sep ts := by
  cases ts with
  | nil => exact absurd rfl hts
  | cons t ts =>
    rw [List.modifyHead_cons]
    cases ts with
    | nil => rw [joinWith_singleton, joinWith_singleton]
    | cons r ts => rw [joinWith_cons_cons, joinWith_cons_cons, List.append_assoc]

theorem joinWith_modifyHead (sep : Text) (c : Char) {ts : List Text} (hts : ts ≠ []) :
    joinWith sep (ts.modifyHead (c :: ·)) = c :: joinWith sep ts :=
  joinWith_modifyHead_append sep [c] hts

/-! ## What is spaced -/

/-- Whether the blanks of a text are single spaces between words.  There is at least one word. -/
inductive Spaced : Text → Prop where
  | last {c : Char} (hc : isBlank c = false) : Spaced [c]
  | solid {c : Char} {t : Text} (hc : isBlank c = false) (ht : Spaced t) : Spaced (c :: t)
  | gap {c : Char} {t : Text} (hc : isBlank c = false) (ht : Spaced t) : Spaced (c :: ' ' :: t)

namespace Spaced

theorem ne_nil {t : Text} (h : Spaced t) : t ≠ [] := by
  cases h with
  | last | solid | gap => exact List.cons_ne_nil _ _

/-- A text without blanks is one word. -/
theorem of_forall {t : Text} (hne : t ≠ []) (h : ∀ c ∈ t, isBlank c = false) : Spaced t := by
  induction t with
  | nil => exact absurd rfl hne
  | cons c t ih =>
    obtain ⟨hc, ht⟩ := List.forall_mem_cons.1 h
    cases t with
    | nil => exact .last hc
    | cons d t => exact .solid hc (ih (List.cons_ne_nil d t) ht)

theorem append {s t : Text} (hs : Spaced s) (ht : Spaced t) : Spaced (s ++ t) := by
  induction hs with
  | last hc => exact .solid hc ht
  | solid hc _ ih => exact .solid hc ih
  | gap hc _ ih => exact .gap hc ih

theorem append_space {s t : Text} (hs : Spaced s) (ht : Spaced t) : Spaced (s ++ ' ' :: t) := by
  induction hs with
  | last hc => exact .gap hc ht
  | solid hc _ ih => exact .solid hc ih
  | gap hc _ ih => exact .gap hc ih

/-- A word of a text is spaced. -/
theorem of_mem_words {t w : Text} (h : w ∈ words t) : Spaced w := by
  obtain ⟨hw, hne⟩ := List.mem_filter.1 h
  exact of_forall (by simpa using hne) fun _ hc => (mem_of_mem_splitOn hw hc).2

theorem of_forall_spaced {ts : List Text} (hne : ts ≠ []) (h : ∀ t ∈ ts, Spaced t) :
    Spaced (joinWith [' '] ts) := by
  induction ts with
  | nil => exact absurd rfl hne
  | cons t ts ih =>
    obtain ⟨ht, hts⟩ := List.forall_mem_cons.1 h
    cases ts with
    | nil =>
      rw [joinWith_singleton]
      exact ht
    | cons s ts =>
      rw [joinWith_cons_cons]
      exact ht.append_space (ih (List.cons_ne_nil s ts) hts)

/-- **Squeezing** leaves only single spaces between words. -/
theorem of_squeeze {t : Text} (h : squeeze t ≠ []) : Spaced (squeeze t) := by
  refine of_forall_spaced (fun hwords => h ?_) fun w hw => of_mem_words hw
  rw [squeeze, hwords, joinWith_nil]

/-- The blanks of a spaced text are spaces. -/
theorem eq_space {t : Text} (h : Spaced t) {c : Char} (hmem : c ∈ t) (hc : isBlank c = true) :
    c = ' ' := by
  induction h with
  | last hd =>
    rw [List.mem_singleton.1 hmem, hd] at hc
    exact absurd hc Bool.false_ne_true
  | solid hd _ ih =>
    rcases List.mem_cons.1 hmem with rfl | hmem
    · rw [hd] at hc
      exact absurd hc Bool.false_ne_true
    · exact ih hmem
  | gap hd _ ih =>
    rcases List.mem_cons.1 hmem with rfl | hmem
    · rw [hd] at hc
      exact absurd hc Bool.false_ne_true
    · rcases List.mem_cons.1 hmem with rfl | hmem
      · rfl
      · exact ih hmem

/-- A spaced text has no blanks at its ends. -/
theorem trim_eq {t : Text} (h : Spaced t) : trim t = t := by
  have hsolid : ∀ {s : Text}, Spaced s → isBlankText s = false := by
    intro s hs
    cases hs with
    | last hc | solid hc | gap hc =>
      rw [isBlankText_cons, hc]
      rfl
  have hend : trimEnd t = t := by
    induction h with
    | last hc => exact trimEnd_concat [] hc
    | solid hc _ ih => rw [trimEnd_cons hc, ih]
    | @gap c t hc ht ih =>
      have hspace : trimEnd (' ' :: t) = ' ' :: trimEnd t :=
        trimEnd_append_of_not_isBlankText [' '] (hsolid ht)
      rw [trimEnd_cons hc, hspace, ih]
  cases h with
  | last hc | solid hc | gap hc => rw [trim_cons hc, hend]

/-! ## What squeezing does -/

/-- The pieces between the blanks are the words, and make up the text with one space between
neighbours. -/
theorem splitOn_eq {t : Text} (h : Spaced t) :
    (∀ w ∈ splitOn isBlank t, w ≠ []) ∧ joinWith [' '] (splitOn isBlank t) = t := by
  have hspace : isBlank ' ' = true := by decide
  induction h with
  | @last c hc =>
    rw [splitOn_cons_of_not hc]
    exact ⟨List.forall_mem_singleton.2 (List.cons_ne_nil c []), joinWith_singleton [' '] [c]⟩
  | @solid c t hc ht ih =>
    obtain ⟨hne, hjoin⟩ := ih
    have hpieces : splitOn isBlank t ≠ [] := by
      intro hnone
      rw [hnone] at hjoin
      exact ht.ne_nil hjoin.symm
    rw [splitOn_cons_of_not hc, joinWith_modifyHead [' '] c hpieces, hjoin]
    refine ⟨?_, rfl⟩
    obtain ⟨w, ws, hws⟩ := List.exists_cons_of_ne_nil hpieces
    rw [hws] at hne ⊢
    rw [List.modifyHead_cons]
    exact List.forall_mem_cons.2 ⟨List.cons_ne_nil c w, (List.forall_mem_cons.1 hne).2⟩
  | @gap c t hc ht ih =>
    obtain ⟨hne, hjoin⟩ := ih
    have hpieces : splitOn isBlank (' ' :: t) = [] :: splitOn isBlank t := by
      rw [splitOn, if_pos hspace]
    rw [splitOn_cons_of_not hc, hpieces, List.modifyHead_cons]
    refine ⟨List.forall_mem_cons.2 ⟨List.cons_ne_nil c [], hne⟩, ?_⟩
    cases hrest : splitOn isBlank t with
    | nil =>
      rw [hrest] at hjoin
      exact absurd hjoin.symm ht.ne_nil
    | cons w ws =>
      rw [joinWith_cons_cons, ← hrest, hjoin]
      rfl

/-- **Squeezing** changes nothing about a spaced text. -/
theorem squeeze_eq {t : Text} (h : Spaced t) : squeeze t = t := by
  obtain ⟨hne, hjoin⟩ := h.splitOn_eq
  have hwords : words t = splitOn isBlank t := by
    rw [words, List.filter_eq_self]
    intro w hw
    simpa using hne w hw
  rw [squeeze, hwords, hjoin]

end Spaced

/-- A blank in front does not count. -/
theorem squeeze_cons_of_isBlank {c : Char} (hc : isBlank c = true) (t : Text) :
    squeeze (c :: t) = squeeze t := by
  rw [squeeze, words, splitOn, if_pos hc]
  rfl

theorem squeeze_append_of_isBlankText {w : Text} (hw : isBlankText w) (t : Text) :
    squeeze (w ++ t) = squeeze t := by
  induction w with
  | nil => rfl
  | cons c w ih =>
    rw [isBlankText_cons, Bool.and_eq_true] at hw
    rw [List.cons_append, squeeze_cons_of_isBlank hw.1, ih hw.2]

/-- Nothing is left of a text exactly when it has no words. -/
theorem squeeze_eq_nil_iff {t : Text} : squeeze t = [] ↔ words t = [] := by
  constructor
  · intro h
    by_contra hne
    exact joinWith_ne_nil [' '] (fun _ hw => (Spaced.of_mem_words hw).ne_nil) hne h
  · intro h
    rw [squeeze, h, joinWith_nil]

/-! ## Squeezing in one pass -/

/-- What squeezing leaves of a text behind a character that is no blank.  Blanks leave a space, which
is written only in front of something else; `gap` is what the blanks so far have left. -/
def squeezeBehind (gap : Text) : Text → Text
  | [] => []
  | c :: t => if isBlank c then squeezeBehind [' '] t else gap ++ c :: squeezeBehind [] t

theorem squeezeBehind_cons_of_isBlank {c : Char} (hc : isBlank c = true) (gap t : Text) :
    squeezeBehind gap (c :: t) = squeezeBehind [' '] t := by
  rw [squeezeBehind, if_pos hc]

theorem squeezeBehind_cons {c : Char} (hc : isBlank c = false) (gap t : Text) :
    squeezeBehind gap (c :: t) = gap ++ c :: squeezeBehind [] t := by
  rw [squeezeBehind, hc, if_neg Bool.false_ne_true]

/-- Two characters side by side that are no blanks are in the same word. -/
theorem words_cons_cons {c d : Char} (hc : isBlank c = false) (hd : isBlank d = false) (t : Text) :
    words (d :: t) ≠ [] ∧ words (c :: d :: t) = (words (d :: t)).modifyHead (c :: ·) := by
  obtain ⟨p, ps, hpieces⟩ := List.exists_cons_of_ne_nil (splitOn_ne_nil isBlank t)
  have htail : words (d :: t) = (d :: p) :: ps.filter (!·.isEmpty) := by
    rw [words, splitOn_cons_of_not hd, hpieces]
    rfl
  refine ⟨by rw [htail]; exact List.cons_ne_nil _ _, ?_⟩
  rw [htail, words, splitOn_cons_of_not hc, splitOn_cons_of_not hd, hpieces]
  rfl

/-- The two statements behind `squeeze_cons_eq` and `squeezeBehind_space`, which need each other. -/
theorem squeezeBehind_eq (t : Text) :
    (∀ {c : Char}, isBlank c = false → squeeze (c :: t) = c :: squeezeBehind [] t) ∧
      squeezeBehind [' '] t = if squeeze t = [] then [] else ' ' :: squeeze t := by
  induction t with
  | nil => exact ⟨fun hc => (Spaced.last hc).squeeze_eq, rfl⟩
  | cons d t ih =>
    obtain ⟨hcons, hspace⟩ := ih
    cases hd : isBlank d with
    | true =>
      refine ⟨fun {c} hc => ?_, ?_⟩
      · have hwords : words (c :: d :: t) = [c] :: words t := by
          rw [words, splitOn_cons_of_not hc, splitOn, if_pos hd]
          rfl
        rw [squeezeBehind_cons_of_isBlank hd, hspace, squeeze, hwords]
        by_cases hnone : words t = []
        · rw [if_pos (squeeze_eq_nil_iff.2 hnone), hnone, joinWith_singleton]
        · rw [if_neg (fun h => hnone (squeeze_eq_nil_iff.1 h)), squeeze]
          obtain ⟨w, ws, hws⟩ := List.exists_cons_of_ne_nil hnone
          rw [hws]
          exact joinWith_cons_cons [' '] [c] w ws
      · rw [squeezeBehind_cons_of_isBlank hd, squeeze_cons_of_isBlank hd, hspace]
    | false =>
      refine ⟨fun {c} hc => ?_, ?_⟩
      · obtain ⟨hne, hwords⟩ := words_cons_cons hc hd t
        rw [squeezeBehind_cons hd, List.nil_append, ← hcons hd, squeeze, hwords,
          joinWith_modifyHead [' '] c hne]
        rfl
      · rw [squeezeBehind_cons hd, hcons hd, if_neg (List.cons_ne_nil _ _)]
        rfl

/-- **Squeezing goes through a text once.** -/
theorem squeeze_cons_eq {c : Char} (hc : isBlank c = false) (t : Text) :
    squeeze (c :: t) = c :: squeezeBehind [] t :=
  (squeezeBehind_eq t).1 hc

theorem squeezeBehind_space (t : Text) :
    squeezeBehind [' '] t = if squeeze t = [] then [] else ' ' :: squeeze t :=
  (squeezeBehind_eq t).2

/-- What is left of a text behind a character that is no blank is the squeezed text, with one space
in front if there were blanks. -/
theorem squeezeBehind_nil_cases (t : Text) :
    ∃ gap, (gap = [] ∨ gap = [' ']) ∧ squeezeBehind [] t = gap ++ squeeze t := by
  cases t with
  | nil => exact ⟨[], .inl rfl, rfl⟩
  | cons d t =>
    cases hd : isBlank d with
    | true =>
      rw [squeezeBehind_cons_of_isBlank hd, squeeze_cons_of_isBlank hd, squeezeBehind_space]
      split
      · rename_i hnil
        exact ⟨[], .inl rfl, hnil.symm⟩
      · exact ⟨[' '], .inr rfl, rfl⟩
    | false => exact ⟨[], .inl rfl, by rw [squeezeBehind_cons hd, squeeze_cons_eq hd]⟩

end CssTrim.Text
