import CssTrim.Text

/-!
# Names in selectors

The name of a class, an id, a tag or a pseudo-class.  A name is a run of name
characters and escapes.  An escape is a backslash followed by one to six
hexadecimal digits and an optional space, which stand for the character with
that code point, or by any other character, which stands for itself.
-/

namespace CssTrim.Selector

/-- A character that a name may hold without an escape. -/
def isNameChar (c : Char) : Bool :=
  c.isAlphanum || c == '-' || c == '_' || c.toNat > 0x7f

/-- The character with this code point.  A number that is no code point of a character stands for
the replacement character, and so does half of a surrogate pair: no text can hold it. -/
def charOfCode (n : Nat) : Char := if n.isValidChar then Char.ofNat n else '\ufffd'

/-- Cuts behind at most `limit` hexadecimal digits. -/
def spanHex : (limit : Nat) → Text → Text × Text
  | 0, t => ([], t)
  | _ + 1, [] => ([], [])
  | limit + 1, c :: rest =>
    if (Text.hexValue? c).isSome then (spanHex limit rest).map (c :: ·) id
    else ([], c :: rest)

/-- Drops one space in front. -/
def dropSpace : Text → Text
  | ' ' :: rest => rest
  | t => t

theorem length_spanHex_le (limit : Nat) (t : Text) :
    (spanHex limit t).2.length ≤ t.length := by
  fun_induction spanHex limit t <;> simp_all
  omega

theorem length_dropSpace_le (t : Text) : (dropSpace t).length ≤ t.length := by
  fun_cases dropSpace t <;> simp

/-- Reads a name: the characters it stands for, and what follows it.  The name is empty where none
starts. -/
def readName (t : Text) : Text × Text :=
  match t with
  | [] => ([], [])
  | '\\' :: c :: rest =>
    if (Text.hexValue? c).isSome then
      let code := Text.hexNumber (c :: (spanHex 5 rest).1)
      (readName (dropSpace (spanHex 5 rest).2)).map (charOfCode code :: ·) id
    else (readName rest).map (c :: ·) id
  | c :: rest => if isNameChar c then (readName rest).map (c :: ·) id else ([], c :: rest)
termination_by t.length
decreasing_by
  · have h₁ := length_spanHex_le 5 rest
    have h₂ := length_dropSpace_le (spanHex 5 rest).2
    simp only [List.length_cons]
    omega
  · simp only [List.length_cons]
    omega
  · simp

theorem length_readName_le (t : Text) : (readName t).2.length ≤ t.length := by
  fun_induction readName t with
  | case1 => simp
  | case2 c rest _ _ ih =>
    have h₁ := length_spanHex_le 5 rest
    have h₂ := length_dropSpace_le (spanHex 5 rest).2
    simp only [List.length_cons, Prod.map_snd, id_eq]
    omega
  | case3 c rest _ ih =>
    simp only [List.length_cons, Prod.map_snd, id_eq]
    omega
  | case4 c rest _ _ ih =>
    simp only [List.length_cons, Prod.map_snd, id_eq]
    omega
  | case5 => simp

/-- Reading a name that is not empty leaves less to read. -/
theorem length_readName_lt {t : Text} (h : (readName t).1 ≠ []) :
    (readName t).2.length < t.length := by
  fun_cases readName t with
  | case1 => simp [readName] at h
  | case2 c rest =>
    have h₁ := length_spanHex_le 5 rest
    have h₂ := length_dropSpace_le (spanHex 5 rest).2
    have h₃ := length_readName_le (dropSpace (spanHex 5 rest).2)
    simp only [List.length_cons, Prod.map_snd, id_eq]
    omega
  | case3 c rest =>
    have h₃ := length_readName_le rest
    simp only [List.length_cons, Prod.map_snd, id_eq]
    omega
  | case4 c rest =>
    have h₃ := length_readName_le rest
    simp only [List.length_cons, Prod.map_snd, id_eq]
    omega
  | case5 c rest h₁ h₂ =>
    rw [readName, if_neg h₂] at h
    · exact absurd rfl h
    · exact h₁

end CssTrim.Selector
