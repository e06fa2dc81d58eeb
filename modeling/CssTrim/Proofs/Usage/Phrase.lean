import CssTrim.Proofs.Text.Character
import CssTrim.Proofs.Text.Recognizer
import CssTrim.Usage.Document

/-!
# Phrases that are written like an attribute

The usage of a document knows no tags: it looks for phrases that are written like
a class or an id.  A place that is written like an attribute does not lie inside
another phrase, unless an equals sign stands in the value of that phrase:
`length_le_of_phrase`.  So what is written like an attribute is found:
`mem_findAll_of_readsValues`.
-/

namespace CssTrim

namespace Usage

open Text

/-- Nothing starts an attribute behind a character of a word. -/
theorem startsAttribute_of_isWordChar {c : Char} (h : isWordChar c = true) :
    startsAttribute (some c) = false := by
  rw [startsAttribute, h, Bool.or_true, Bool.not_true]

/-- What parts the name of an attribute and its value: blanks, an equals sign and a quote. -/
theorem exists_of_between? {qs s rest value left : Text} (hrest : equals? s = some rest)
    (hvalue : between? qs rest = some (value, left)) (hqs : ∀ q ∈ qs, isWordChar q = false) :
    ∃ q ∈ qs, ∃ sep, s = sep ++ (value ++ q :: left) ∧ ∀ c ∈ sep, isWordChar c = false := by
  obtain ⟨w, r, hw, rfl, rfl⟩ := equals?_eq_some_iff.1 hrest
  obtain ⟨q, hq, -, hquoted⟩ := between?_eq_some_iff.1 hvalue
  obtain ⟨w', hw', hr⟩ := trimStart_append r
  rw [hquoted] at hr
  refine ⟨q, hq, w ++ '=' :: (w' ++ [q]), ?_, ?_⟩
  · rw [hr]
    simp
  · have hsign : isWordChar '=' = false := by decide
    intro c hc
    rcases List.mem_append.1 hc with hc | hc
    · exact isWordChar_of_isBlank (forall_isBlank_of_isBlankText hw c hc)
    · rcases List.mem_cons.1 hc with rfl | hc
      · exact hsign
      · rcases List.mem_append.1 hc with hc | hc
        · exact isWordChar_of_isBlank (forall_isBlank_of_isBlankText hw' c hc)
        · rw [List.mem_singleton.1 hc]
          exact hqs q hq

/-- Up to its first equals sign a text that starts like an attribute holds no quote, so it is not the
end of a value without such a sign. -/
theorem ne_append_quote {word w more part left : Text} {q : Char} (hq : isWordChar q = false)
    (hqBlank : isBlank q = false) (hqSign : q ≠ '=') (hword : ∀ c ∈ word, isWordChar c = true)
    (hw : isBlankText w) (hpart : '=' ∉ part) :
    word ++ (w ++ '=' :: more) ≠ part ++ q :: left := by
  intro heq
  have hnoSign : ∀ u : Text, '=' ∉ u → ∀ d ∈ u, (d != '=') = true := by
    intro u hu d hd
    rw [bne_iff_ne]
    rintro rfl
    exact hu hd
  have hfront : '=' ∉ word ++ w := by
    intro hd
    rcases List.mem_append.1 hd with hd | hd
    · exact absurd (hword _ hd) (by decide)
    · exact absurd (forall_isBlank_of_isBlankText hw _ hd) (by decide)
  have htake :=
    (takeWhile_dropWhile_append_cons (hnoSign _ hfront) (bne_self_eq_false '=') more).1
  rw [List.append_assoc, heq, List.takeWhile_append_of_pos (hnoSign part hpart),
    List.takeWhile_cons_of_pos (by simpa using hqSign)] at htake
  have hmem : q ∈ word ++ w := by
    rw [← htake]
    exact List.mem_append_right _ List.mem_cons_self
  rcases List.mem_append.1 hmem with hmem | hmem
  · rw [hword q hmem] at hq
    cases hq
  · rw [forall_isBlank_of_isBlankText hw q hmem] at hqBlank
    cases hqBlank

/-- **A place inside a phrase.**  A text that starts like an attribute, behind a character that may
stand before one, starts behind a phrase, if it does not start in front of it. -/
theorem length_le_of_phrase {name sep value left front word w more : Text} {q : Char}
    (hname : ∀ c ∈ name, isWordChar c = true) (hsep : ∀ c ∈ sep, isWordChar c = false)
    (hq : isWordChar q = false) (hqBlank : isBlank q = false) (hqSign : q ≠ '=')
    (hsign : '=' ∉ value)
    (hword : ∀ c ∈ word, isWordChar c = true) (hne : word ≠ []) (hw : isBlankText w)
    (hfront : front ≠ []) (hstarts : startsAttribute front.getLast? = true)
    (heq : front ++ (word ++ (w ++ '=' :: more)) = name ++ (sep ++ (value ++ q :: left))) :
    (word ++ (w ++ '=' :: more)).length ≤ left.length := by
  have hinside : ∀ part, '=' ∉ part → word ++ (w ++ '=' :: more) ≠ part ++ q :: left :=
    fun _ => ne_append_quote hq hqBlank hqSign hword hw
  obtain ⟨first, others, rfl⟩ := List.exists_cons_of_ne_nil hne
  have hfirst := (List.forall_mem_cons.1 hword).1
  rcases List.append_eq_append_iff.1 heq with ⟨name₂, rfl, -⟩ | ⟨front₁, rfl, heq₁⟩
  · -- behind a character of the name
    obtain ⟨last, hlast⟩ := Option.ne_none_iff_exists'.1 (mt List.getLast?_eq_none_iff.1 hfront)
    have hchar := hname last (List.mem_append_left _ (List.mem_of_getLast? hlast))
    rw [hlast, startsAttribute_of_isWordChar hchar] at hstarts
    cases hstarts
  rcases List.append_eq_append_iff.1 heq₁ with ⟨front₂, rfl, heq₂⟩ | ⟨sep₂, rfl, heq₂⟩
  · rcases List.append_eq_append_iff.1 heq₂ with ⟨front₃, rfl, heq₃⟩ | ⟨value₂, rfl, heq₃⟩
    · cases front₃ with
      | nil =>
        -- at the closing quote
        rw [(List.cons.inj heq₃).1, hfirst] at hq
        cases hq
      | cons d front₃ =>
        rw [List.cons_append] at heq₃
        rw [(List.cons.inj heq₃).2]
        exact (List.suffix_append _ _).length_le
    · exact absurd heq₃ (hinside value₂ fun hmem => hsign (List.mem_append_right _ hmem))
  · cases sep₂ with
    | nil => exact absurd heq₂ (hinside value hsign)
    | cons d sep₂ =>
      -- between the name and the value
      have hd := hsep d (List.mem_append_right _ List.mem_cons_self)
      rw [← (List.cons.inj heq₂).1, hfirst] at hd
      cases hd

/-- Whether a recognizer reads a name and a value in quotes. -/
def ReadsValues (r : Recognizer Text) : Prop :=
  ∀ before t value left, r before t = some (value, left) →
    ∃ name sep, ∃ q ∈ allQuotes, t = name ++ (sep ++ (value ++ q :: left)) ∧
      (∀ c ∈ name, isWordChar c = true) ∧ ∀ c ∈ sep, isWordChar c = false

theorem isWordChar_of_mem_allQuotes {q : Char} (h : q ∈ allQuotes) : isWordChar q = false := by
  have hall : allQuotes.all (!isWordChar ·) = true := by decide
  simpa using List.all_eq_true.1 hall q h

/-- A value in any quotes was read without such quotes in it. -/
theorem between?_of_plainBetween? {qs t value left : Text}
    (h : plainBetween? qs t = some (value, left)) : between? qs t = some (value, left) := by
  obtain ⟨q, hq, hvalue, rfl⟩ := plainBetween?_eq_some_iff.1 h
  exact between?_eq_some_iff.2 ⟨q, hq, fun hmem => hvalue q hmem hq, rfl⟩

/-- More kinds of quotes read no less. -/
theorem between?_of_subset {qs qs' t value left : Text} (hsub : ∀ q ∈ qs, q ∈ qs')
    (h : between? qs t = some (value, left)) : between? qs' t = some (value, left) := by
  obtain ⟨q, hq, hvalue, rfl⟩ := between?_eq_some_iff.1 h
  exact between?_eq_some_iff.2 ⟨q, hsub q hq, hvalue, rfl⟩

theorem mem_allQuotes_of_mem_quotes {q : Char} (h : q ∈ quotes) : q ∈ allQuotes := by
  have hall : quotes.all allQuotes.contains = true := by decide
  exact List.contains_iff_mem.1 (List.all_eq_true.1 hall q h)

theorem classAttribute_eq (before : Option Char) (t : Text) :
    classAttribute before t =
      if startsAttribute before then
        (oneOf? ["className".toList, "class".toList] t).bind fun behind =>
          (equals? behind).bind (between? allQuotes)
      else none := by
  unfold classAttribute
  cases startsAttribute before <;> rfl

theorem idAttribute_eq (before : Option Char) (t : Text) :
    idAttribute before t =
      if startsAttribute before && before != some '.' then
        (after? "id".toList t).bind fun behind => (equals? behind).bind (plainBetween? quotes)
      else none := by
  unfold idAttribute
  cases startsAttribute before && before != some '.' <;> rfl

theorem readsValues_classAttribute : ReadsValues classAttribute := by
  intro before t value left h
  rw [classAttribute_eq, Option.ite_none_right_eq_some] at h
  obtain ⟨behind, hbehind, h⟩ := Option.bind_eq_some_iff.1 h.2
  obtain ⟨rest, hrest, hvalue⟩ := Option.bind_eq_some_iff.1 h
  obtain ⟨name, hname, hafter⟩ := List.exists_of_findSome?_eq_some hbehind
  obtain ⟨q, hq, sep, rfl, hsep⟩ :=
    exists_of_between? hrest hvalue fun _ => isWordChar_of_mem_allQuotes
  have hword : ∀ name ∈ ["className".toList, "class".toList], name.all isWordChar = true := by
    decide
  exact ⟨name, sep, q, hq, after?_eq_some_iff.1 hafter, List.all_eq_true.1 (hword name hname),
    hsep⟩

theorem readsValues_idAttribute : ReadsValues idAttribute := by
  intro before t value left h
  rw [idAttribute_eq, Option.ite_none_right_eq_some] at h
  obtain ⟨behind, hbehind, h⟩ := Option.bind_eq_some_iff.1 h.2
  obtain ⟨rest, hrest, hvalue⟩ := Option.bind_eq_some_iff.1 h
  obtain ⟨q, hq, sep, rfl, hsep⟩ :=
    exists_of_between? hrest (between?_of_plainBetween? hvalue) fun _ hq =>
      isWordChar_of_mem_allQuotes (mem_allQuotes_of_mem_quotes hq)
  have hword := List.all_eq_true.1 (by decide : "id".toList.all isWordChar = true)
  exact ⟨"id".toList, sep, q, mem_allQuotes_of_mem_quotes hq, after?_eq_some_iff.1 hbehind, hword,
    hsep⟩

/-- **No phrase covers an attribute.**  A value that is read at a place that is written like an
attribute is found, if no value holds an equals sign. -/
theorem mem_findAll_of_readsValues {r : Recognizer Text} (hr : ReadsValues r) {t : Text}
    (hsigns : ∀ x ∈ places t, ∀ p, r x.1 x.2 = some p → '=' ∉ p.1)
    {before : Option Char} {word behind rest value left : Text}
    (hplace : (before, word ++ behind) ∈ places t) (hstarts : startsAttribute before = true)
    (hword : ∀ c ∈ word, isWordChar c = true) (hne : word ≠ []) (hrest : equals? behind = some rest)
    (hread : r before (word ++ behind) = some (value, left)) : value ∈ r.findAll t := by
  apply Recognizer.mem_findAll hplace hread
  rintro ⟨before', u⟩ hu ⟨covering, left'⟩ hlt hfound
  obtain ⟨name, sep, q, hq, rfl, hname, hsep⟩ := hr _ _ _ _ hfound
  obtain ⟨front, hfront, heq, hlast⟩ := exists_append_of_mem_places hplace hu hlt
  obtain ⟨w, more, hw, rfl, -⟩ := equals?_eq_some_iff.1 hrest
  have hall : allQuotes.all (fun q => !isBlank q && q != '=') = true := by decide
  have hquote : isBlank q = false ∧ q ≠ '=' := by simpa using List.all_eq_true.1 hall q hq
  rw [← hlast] at hstarts
  exact length_le_of_phrase hname hsep (isWordChar_of_mem_allQuotes hq) hquote.1 hquote.2
    (hsigns _ hu _ hfound) hword hne hw hfront hstarts heq.symm

end Usage

end CssTrim
