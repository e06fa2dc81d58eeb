import CssTrim.Proofs.Selector.Scan
import CssTrim.Proofs.Text.Character

/-!
# How a name is read

`readName` reads a name at the front of a text.  This module says which part of the
text that is.  There are three groups.

* Codes.  A code is a run of hexadecimal digits behind a backslash, and at most one
  space behind it belongs to it.
* `Spells written name gap rest`: in front of `rest` the text `written` is read as
  `name`.  If the name ends with a code, the space of this code is `gap`.  Every text
  starts in this way, by `exists_spells`, and it does not matter how much of `rest`
  there is, by `Spells.mono`.
* Names that are cut.  Only a part of the name is left, by `Spells.clip`.
-/

namespace CssTrim.Selector

/-! ## Codes -/

/-- A hexadecimal digit is a character that a name may hold, and no blank. -/
theorem isNameChar_of_hexValue? {d : Char} (h : (Text.hexValue? d).isSome = true) :
    isNameChar d = true ∧ Text.isBlank d = false := by
  have hall : ∀ c : Char, c.toNat < 128 → (Text.hexValue? c).isSome = true →
      isNameChar c = true ∧ Text.isBlank c = false := Text.forall_ascii (by decide)
  exact hall d (Text.toNat_lt_of_hexValue? h) h

theorem mem_head?_of_part {p t : Text} (h : p <+: t) {c : Char} (hc : c ∈ p.head?) :
    c ∈ t.head? := by
  obtain ⟨more, rfl⟩ := h
  cases p with
  | nil => simp at hc
  | cons d p => exact hc

/-- A character that is there or not: `front` is what of it is there in front of a text. -/
def Perhaps (c : Char) (front rest : Text) : Prop :=
  front = [c] ∨ front = [] ∧ rest.head? ≠ some c

theorem Perhaps.mono {c : Char} {front rest p : Text} (h : Perhaps c front rest)
    (hp : p <+: rest) : Perhaps c front p := by
  rcases h with h | ⟨h, hrest⟩
  · exact .inl h
  · exact .inr ⟨h, fun hc => hrest (mem_head?_of_part hp hc)⟩

theorem Perhaps.dropSpace {front rest : Text} (h : Perhaps ' ' front rest) :
    dropSpace (front ++ rest) = rest := by
  rcases h with rfl | ⟨rfl, hrest⟩
  · rfl
  · rw [List.nil_append, Selector.dropSpace]
    rintro more rfl
    exact hrest rfl

theorem exists_perhaps_space (t : Text) :
    ∃ front, t = front ++ dropSpace t ∧ Perhaps ' ' front (dropSpace t) := by
  fun_cases dropSpace t with
  | case1 rest => exact ⟨[' '], rfl, .inl rfl⟩
  | case2 t hspace =>
    refine ⟨[], rfl, .inr ⟨rfl, fun hhead => ?_⟩⟩
    obtain ⟨more, rfl⟩ := List.head?_eq_some_iff.1 hhead
    exact hspace more rfl

/-- Whether digits are read as one code in front of a text. -/
structure IsCode (digits rest : Text) : Prop where
  ne_nil : digits ≠ []
  isHex : ∀ d ∈ digits, (Text.hexValue? d).isSome = true
  length_le : digits.length ≤ 6
  ends : digits.length = 6 ∨ ∀ c ∈ rest.head?, Text.hexValue? c = none

theorem IsCode.mono {digits rest p : Text} (h : IsCode digits rest) (hp : p <+: rest) :
    IsCode digits p :=
  { h with ends := h.ends.imp_right fun hends c hc => hends c (mem_head?_of_part hp hc) }

theorem IsCode.not_mem {digits rest : Text} (h : IsCode digits rest) {c : Char}
    (hc : isNameChar c = false) : c ∉ digits := fun hmem =>
  Bool.noConfusion (hc.symm.trans (isNameChar_of_hexValue? (h.isHex c hmem)).1)

/-- A number ends at its limit or where no digit follows it. -/
theorem spanHex_append {limit : Nat} {digits rest : Text}
    (hdigits : ∀ d ∈ digits, (Text.hexValue? d).isSome = true) (hlength : digits.length ≤ limit)
    (hrest : digits.length = limit ∨ ∀ c ∈ rest.head?, Text.hexValue? c = none) :
    spanHex limit (digits ++ rest) = (digits, rest) := by
  induction digits generalizing limit with
  | nil =>
    cases limit with
    | zero => rfl
    | succ limit =>
      cases rest with
      | nil => rfl
      | cons c rest =>
        have hc : Text.hexValue? c = none := hrest.resolve_left (by simp) c rfl
        simp [spanHex, hc]
  | cons d digits ih =>
    obtain ⟨hd, hdigits⟩ := List.forall_mem_cons.1 hdigits
    cases limit with
    | zero => simp at hlength
    | succ limit =>
      rw [List.length_cons] at hlength hrest
      have hshort : digits.length = limit ∨ ∀ c ∈ rest.head?, Text.hexValue? c = none :=
        hrest.imp_left fun h => by omega
      rw [List.cons_append, spanHex, if_pos hd, ih hdigits (by omega) hshort]
      rfl

/-- The digits that a number is cut behind. -/
theorem exists_spanHex (limit : Nat) (t : Text) :
    t = (spanHex limit t).1 ++ (spanHex limit t).2 ∧
      (∀ d ∈ (spanHex limit t).1, (Text.hexValue? d).isSome = true) ∧
        (spanHex limit t).1.length ≤ limit ∧
          ((spanHex limit t).1.length = limit ∨
            ∀ c ∈ (spanHex limit t).2.head?, Text.hexValue? c = none) := by
  fun_induction spanHex limit t with
  | case1 t => simp
  | case2 limit => simp
  | case3 limit c rest hc ih =>
    obtain ⟨happend, hdigits, hlength, hends⟩ := ih
    refine ⟨congrArg (c :: ·) happend, List.forall_mem_cons.2 ⟨hc, hdigits⟩, ?_, ?_⟩
    · exact Nat.succ_le_succ hlength
    · exact hends.imp_left (congrArg Nat.succ)
  | case4 limit c rest hc => simp_all

/-- The code behind a backslash and a first digit. -/
theorem isCode_spanHex {c : Char} (hc : (Text.hexValue? c).isSome = true) (rest : Text) :
    IsCode (c :: (spanHex 5 rest).1) (spanHex 5 rest).2 := by
  obtain ⟨-, hdigits, hlength, hends⟩ := exists_spanHex 5 rest
  exact ⟨List.cons_ne_nil _ _, List.forall_mem_cons.2 ⟨hc, hdigits⟩, Nat.succ_le_succ hlength,
    hends.imp_left (congrArg Nat.succ)⟩

theorem readName_escaped {c : Char} (hdigit : Text.hexValue? c = none) (rest : Text) :
    readName ('\\' :: c :: rest) = (readName rest).map (c :: ·) id := by
  rw [readName, hdigit]
  rfl

theorem IsCode.spanHex_append {first : Char} {more rest : Text} (h : IsCode (first :: more) rest) :
    spanHex 5 (more ++ rest) = (more, rest) := by
  obtain ⟨-, hdigits, hlength, hends⟩ := h
  rw [List.length_cons] at hlength hends
  exact Selector.spanHex_append (List.forall_mem_cons.1 hdigits).2 (by omega)
    (hends.imp_left fun h => by omega)

/-- A code is read up to its last digit, and a space behind it goes with it. -/
theorem IsCode.readName {digits rest : Text} (h : IsCode digits rest) :
    readName ('\\' :: (digits ++ rest)) =
      (readName (dropSpace rest)).map (charOfCode (Text.hexNumber digits) :: ·) id := by
  obtain ⟨first, more, rfl⟩ := List.exists_cons_of_ne_nil h.ne_nil
  have hfirst := h.isHex first List.mem_cons_self
  rw [List.cons_append, Selector.readName, if_pos hfirst, h.spanHex_append]

/-- A code is read in the same way if less follows it. -/
theorem IsCode.readName_part {digits space t p : Text} (h : IsCode digits (space ++ t))
    (hspace : Perhaps ' ' space t) (hp : p <+: t) :
    Selector.readName ('\\' :: (digits ++ (space ++ p))) =
      (Selector.readName p).map (charOfCode (Text.hexNumber digits) :: ·) id := by
  rw [(h.mono ((List.prefix_append_right_inj space).2 hp)).readName, (hspace.mono hp).dropSpace]

/-! ## Names -/

/-- An escape is always the start of a name. -/
theorem readName_escape_ne (c : Char) (rest : Text) :
    readName ('\\' :: c :: rest) ≠ ([], '\\' :: c :: rest) := by
  intro h
  rw [readName] at h
  split at h <;> simp [Prod.ext_iff] at h

/-- Where no name starts, none starts either if less of the text is there. -/
theorem readName_of_part {rest p : Text} (h : readName rest = ([], rest)) (hp : p <+: rest) :
    readName p = ([], p) := by
  obtain ⟨more, rfl⟩ := hp
  cases p with
  | nil => rw [readName]
  | cons c p =>
    by_cases hc : c = '\\'
    · subst hc
      cases p with
      | nil => simp [readName, isNameChar]
      | cons d p => exact absurd h (readName_escape_ne d (p ++ more))
    · rw [List.cons_append, readName_cons hc] at h
      rw [readName_cons hc]
      split at h
      · simp [Prod.ext_iff] at h
      · rw [if_neg (by assumption)]

/-- Whether the text `written` is read as a name in front of `rest`.  If the name ends with a code,
`gap` is the space of this code, if it is there. -/
inductive Spells : (written name gap rest : Text) → Prop where
  | nil {rest : Text} (hends : readName rest = ([], rest)) : Spells [] [] [] rest
  | plain {c : Char} {w n gap rest : Text} (hc : isNameChar c = true) (h : Spells w n gap rest) :
      Spells (c :: w) (c :: n) gap rest
  | escaped {c : Char} {w n gap rest : Text} (hc : Text.hexValue? c = none)
      (h : Spells w n gap rest) : Spells ('\\' :: c :: w) (c :: n) gap rest
  | last {digits gap rest : Text} (hcode : IsCode digits (gap ++ rest))
      (hgap : Perhaps ' ' gap rest) (hends : readName rest = ([], rest)) :
      Spells ('\\' :: digits) [charOfCode (Text.hexNumber digits)] gap rest
  | code {digits space w n gap rest : Text} (hcode : IsCode digits (space ++ (w ++ (gap ++ rest))))
      (hspace : Perhaps ' ' space (w ++ (gap ++ rest))) (hne : w ≠ []) (h : Spells w n gap rest) :
      Spells ('\\' :: (digits ++ (space ++ w))) (charOfCode (Text.hexNumber digits) :: n) gap rest

/-- Every text starts with a name, which may be empty. -/
theorem exists_spells (t : Text) :
    ∃ w gap, t = w ++ (gap ++ (readName t).2) ∧
      Spells w (readName t).1 gap (readName t).2 := by
  fun_induction readName t with
  | case1 => exact ⟨[], [], rfl, .nil (by rw [readName])⟩
  | case2 c rest hc code ih =>
    obtain ⟨w, gap, hleft, hspells⟩ := ih
    obtain ⟨space, hspace, hperhaps⟩ := exists_perhaps_space (spanHex 5 rest).2
    have hcode := isCode_spanHex hc rest
    have hrest := (exists_spanHex 5 rest).1
    simp only [Prod.map_fst, Prod.map_snd, id]
    generalize readName (dropSpace (spanHex 5 rest).2) = named at *
    obtain ⟨n, behind⟩ := named
    dsimp only at *
    rw [hleft] at hspace hperhaps
    rw [hspace] at hcode hrest
    -- The space belongs to the last letter only if no letter follows.
    by_cases hne : w = []
    · subst hne
      cases hspells with
      | nil hends =>
        refine ⟨'\\' :: c :: (spanHex 5 rest).1, space, ?_, .last hcode hperhaps hends⟩
        simp only [List.cons_append]
        exact congrArg (fun t => '\\' :: c :: t) hrest
    · refine ⟨'\\' :: ((c :: (spanHex 5 rest).1) ++ (space ++ w)), gap, ?_,
        .code hcode hperhaps hne hspells⟩
      simp only [List.cons_append, List.append_assoc]
      exact congrArg (fun t => '\\' :: c :: t) hrest
  | case3 c rest hc ih =>
    obtain ⟨w, gap, hrest, hspells⟩ := ih
    have hdigit : Text.hexValue? c = none := by simpa using hc
    refine ⟨'\\' :: c :: w, gap, ?_, .escaped hdigit hspells⟩
    exact congrArg (fun t => '\\' :: c :: t) hrest
  | case4 c rest _ hc ih =>
    obtain ⟨w, gap, hrest, hspells⟩ := ih
    exact ⟨c :: w, gap, congrArg (c :: ·) hrest, .plain hc hspells⟩
  | case5 c rest hescape hc =>
    refine ⟨[], [], rfl, .nil ?_⟩
    rw [readName, if_neg hc]
    exact hescape

namespace Spells

variable {w n gap rest : Text}

theorem ends (h : Spells w n gap rest) : readName rest = ([], rest) := by
  induction h with
  | nil hends | last _ _ hends => exact hends
  | plain _ _ ih | escaped _ _ ih | code _ _ _ _ ih => exact ih

theorem readName_append (h : Spells w n gap rest) :
    readName (w ++ (gap ++ rest)) = (n, rest) := by
  induction h with
  | nil hends => exact hends
  | plain hc _ ih =>
    rw [List.cons_append, readName_cons (ne_of_class hc (by decide)), if_pos hc, ih]
    rfl
  | escaped hc _ ih =>
    rw [List.cons_append, List.cons_append, readName_escaped hc, ih]
    rfl
  | last hcode hgap hends =>
    rw [List.cons_append, hcode.readName_part hgap List.prefix_rfl, hends]
    rfl
  | code hcode hspace _ _ ih =>
    rw [List.cons_append, List.append_assoc, List.append_assoc,
      hcode.readName_part hspace List.prefix_rfl, ih]
    rfl

/-- A name is read in the same way if less follows it. -/
theorem mono (h : Spells w n gap rest) {p : Text} (hp : p <+: rest) : Spells w n gap p := by
  induction h with
  | nil hends => exact .nil (readName_of_part hends hp)
  | plain hc _ ih => exact .plain hc (ih hp)
  | escaped hc _ ih => exact .escaped hc (ih hp)
  | @last digits gap rest hcode hgap hends =>
    exact .last (hcode.mono ((List.prefix_append_right_inj gap).2 hp)) (hgap.mono hp)
      (readName_of_part hends hp)
  | @code digits space w n gap rest hcode hspace hne _ ih =>
    have hfront : w ++ (gap ++ p) <+: w ++ (gap ++ rest) :=
      (List.prefix_append_right_inj w).2 ((List.prefix_append_right_inj gap).2 hp)
    exact .code (hcode.mono ((List.prefix_append_right_inj space).2 hfront)) (hspace.mono hfront)
      hne (ih hp)

theorem gap_eq (h : Spells w n gap rest) : gap = [] ∨ gap = [' '] := by
  induction h with
  | nil => exact .inl rfl
  | last _ hgap _ => exact hgap.symm.imp_left And.left
  | plain _ _ ih | escaped _ _ ih | code _ _ _ _ ih => exact ih

/-- At the end of a text a name needs no space behind its last code. -/
theorem of_nothing (h : Spells w n gap rest) : Spells w n [] [] := by
  have hread : readName [] = ([], []) := by rw [readName]
  induction h with
  | nil => exact .nil hread
  | plain hc _ ih => exact .plain hc ih
  | escaped hc _ ih => exact .escaped hc ih
  | last hcode _ _ => exact .last (hcode.mono List.nil_prefix) (.inr ⟨rfl, by simp⟩) hread
  | @code digits space w n gap rest hcode hspace hne _ ih =>
    have hfront : w ++ ([] ++ []) <+: w ++ (gap ++ rest) :=
      (List.prefix_append_right_inj w).2 List.nil_prefix
    exact .code (hcode.mono ((List.prefix_append_right_inj space).2 hfront)) (hspace.mono hfront)
      hne ih

/-- A name is read in the same way if even the space behind it is missing. -/
theorem exists_of_part (h : Spells w n gap rest) {p : Text} (hp : p <+: gap ++ rest) :
    ∃ gap' p', p = gap' ++ p' ∧ Spells w n gap' p' := by
  rcases h.gap_eq with rfl | rfl
  · exact ⟨[], p, rfl, h.mono hp⟩
  · cases p with
    | nil => exact ⟨[], [], rfl, h.of_nothing⟩
    | cons d p =>
      obtain ⟨rfl, hrest⟩ := List.cons_prefix_cons.1 hp
      exact ⟨[' '], p, rfl, h.mono hrest⟩

theorem name_eq_nil_iff (h : Spells w n gap rest) : n = [] ↔ w = [] := by
  cases h with
  | nil => exact Iff.rfl
  | plain | escaped | last | code => simp

/-! ## Names that are cut -/

/-- Only a part of a name is left of it if it is cut at a character that is not read as it stands.
Nothing at all is left only behind its first backslash. -/
theorem clip (h : Spells w n gap rest) {x y : Text} {c : Char} (hw : w = x ++ c :: y)
    (hname : isNameChar c = false) (hc : c ≠ '\\') :
    (readName x).1 <+: n ∧ (readName x).1.length < n.length ∧
      ((readName x).1 = [] → x = ['\\']) := by
  induction h generalizing x with
  | nil => simp at hw
  | @plain d w n gap rest hd _ ih =>
    cases x with
    | nil =>
      obtain rfl : d = c := (List.cons.inj hw).1
      exact absurd hd (by simp [hname])
    | cons e x =>
      obtain ⟨rfl, hrest⟩ : d = e ∧ w = x ++ c :: y := List.cons.inj hw
      obtain ⟨hpart, hlength, -⟩ := ih hrest
      rw [readName_cons (ne_of_class hd (by decide)), if_pos hd]
      exact ⟨(List.prefix_cons_inj d).2 hpart, Nat.succ_lt_succ hlength, by simp⟩
  | @escaped d w n gap rest hd _ ih =>
    cases x with
    | nil => exact absurd (List.cons.inj hw).1.symm hc
    | cons e x =>
      obtain ⟨rfl, hbehind⟩ : '\\' = e ∧ d :: w = x ++ c :: y := List.cons.inj hw
      cases x with
      | nil =>
        have hread : readName ['\\'] = ([], ['\\']) := by simp [readName, isNameChar]
        rw [hread]
        exact ⟨List.nil_prefix, Nat.succ_pos _, fun _ => rfl⟩
      | cons e x =>
        obtain ⟨rfl, hrest⟩ : d = e ∧ w = x ++ c :: y := List.cons.inj hbehind
        obtain ⟨hpart, hlength, -⟩ := ih hrest
        rw [readName_escaped hd]
        exact ⟨(List.prefix_cons_inj d).2 hpart, Nat.succ_lt_succ hlength, by simp⟩
  | @last digits gap rest hcode _ _ =>
    cases x with
    | nil => exact absurd (List.cons.inj hw).1.symm hc
    | cons e x =>
      obtain ⟨rfl, hdigits⟩ : '\\' = e ∧ digits = x ++ c :: y := List.cons.inj hw
      exact absurd (by simp [hdigits]) (hcode.not_mem hname)
  | @code digits space w n gap rest hcode hspace hne h ih =>
    cases x with
    | nil => exact absurd (List.cons.inj hw).1.symm hc
    | cons e x =>
      obtain ⟨rfl, hbehind⟩ : '\\' = e ∧ digits ++ (space ++ w) = x ++ c :: y :=
        List.cons.inj hw
      -- The digits are whole, and the character is the space or stands behind it.
      obtain ⟨z, rfl, hz⟩ : ∃ z, x = digits ++ z ∧ space ++ w = z ++ c :: y := by
        rcases List.append_eq_append_iff.1 hbehind with ⟨z, hx, hz⟩ | ⟨z, hdigits, hz⟩
        · exact ⟨z, hx, hz⟩
        · cases z with
          | nil => exact ⟨[], by simpa using hdigits.symm, hz.symm⟩
          | cons d z =>
            obtain rfl : c = d := (List.cons.inj hz).1
            exact absurd (by simp [hdigits]) (hcode.not_mem hname)
      obtain ⟨p, hread, hp⟩ : ∃ p, readName ('\\' :: (digits ++ z)) =
          (readName p).map (charOfCode (Text.hexNumber digits) :: ·) id ∧
            (p = [] ∨ w = p ++ c :: y) := by
        have hpart : ∀ {p : Text}, w = p ++ c :: y → p <+: w ++ (gap ++ rest) := by
          rintro p rfl
          rw [List.append_assoc]
          exact List.prefix_append p _
        rcases hspace with rfl | ⟨rfl, hnone⟩
        · cases z with
          | nil =>
            have hlast : IsCode digits ([] ++ []) := hcode.mono List.nil_prefix
            exact ⟨[], hlast.readName_part (.inr ⟨rfl, by simp⟩) List.prefix_rfl, .inl rfl⟩
          | cons d z =>
            obtain ⟨rfl, hrest⟩ : ' ' = d ∧ w = z ++ c :: y := List.cons.inj hz
            exact ⟨z, hcode.readName_part (.inl rfl) (hpart hrest), .inr hrest⟩
        · exact ⟨z, hcode.readName_part (.inr ⟨rfl, hnone⟩) (hpart hz), .inr hz⟩
      have hshorter : (readName p).1 <+: n ∧ (readName p).1.length < n.length := by
        rcases hp with rfl | hp
        · rw [readName]
          exact ⟨List.nil_prefix, List.length_pos_iff.2 (mt h.name_eq_nil_iff.1 hne)⟩
        · exact ⟨(ih hp).1, (ih hp).2.1⟩
      rw [hread]
      exact ⟨(List.prefix_cons_inj _).2 hshorter.1, Nat.succ_lt_succ hshorter.2, by simp⟩

end Spells

end CssTrim.Selector
