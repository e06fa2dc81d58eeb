import CssTrim.Lexeme

/-!
# Selector groups

A selector group is a list of alternatives with commas between them.  A comma
separates two alternatives only outside quotes, parentheses and brackets, and a
backslash takes the next character with it.  A closing parenthesis or bracket
that closes nothing changes nothing.

`alternatives` drops alternatives that are blank and squeezes the others.  The
last lemma bounds their length, which is what recursion into the argument of a
functional pseudo-class needs.
-/

namespace CssTrim.Selector

/-- What a character of a selector group stands inside. -/
structure Nesting where
  parens : Nat := 0
  brackets : Nat := 0
  quote : Option Char := none

namespace Nesting

/-- Whether a comma would separate alternatives. -/
def isOutside (n : Nesting) : Bool := n.parens == 0 && n.brackets == 0 && n.quote.isNone

/-- The nesting behind a character. -/
def next (n : Nesting) (c : Char) : Nesting :=
  match n.quote with
  | some q => if c = q then { n with quote := none } else n
  | none =>
    if Text.isQuote c then { n with quote := some c }
    else if c = '(' then { n with parens := n.parens + 1 }
    else if c = ')' then { n with parens := n.parens - 1 }
    else if c = '[' then { n with brackets := n.brackets + 1 }
    else if c = ']' then { n with brackets := n.brackets - 1 }
    else n

end Nesting

/-- Cuts a text at the commas that separate alternatives. -/
def splitCommas (n : Nesting) : Text → List Text
  | [] => [[]]
  | '\\' :: c :: rest => (splitCommas n rest).modifyHead fun t => '\\' :: c :: t
  | c :: rest =>
    if c = ',' ∧ n.isOutside then [] :: splitCommas n rest
    else (splitCommas (n.next c) rest).modifyHead (c :: ·)

/-- The alternatives of a selector group. -/
def alternatives (t : Text) : List Text :=
  ((splitCommas {} t).map Text.squeeze).filter (!·.isEmpty)

/-! ## Lengths -/

/-- The length of texts written with one character behind each. -/
def weight : List Text → Nat
  | [] => 0
  | t :: rest => t.length + 1 + weight rest

theorem weight_modifyHead (front : Text) {ts : List Text} (h : ts ≠ []) :
    weight (ts.modifyHead (front ++ ·)) = front.length + weight ts := by
  cases ts with
  | nil => exact absurd rfl h
  | cons t rest =>
    simp only [weight, List.modifyHead_cons, List.length_append]
    omega

theorem splitOn_ne_nil (p : Char → Bool) (t : Text) : Text.splitOn p t ≠ [] := by
  induction t with
  | nil => simp [Text.splitOn]
  | cons c rest ih =>
    unfold Text.splitOn
    split
    · simp
    · simpa using ih

theorem splitCommas_ne_nil (n : Nesting) (t : Text) : splitCommas n t ≠ [] := by
  fun_induction splitCommas n t <;> simp_all

theorem weight_splitOn (p : Char → Bool) (t : Text) :
    weight (Text.splitOn p t) = t.length + 1 := by
  induction t with
  | nil => simp [Text.splitOn, weight]
  | cons c rest ih =>
    unfold Text.splitOn
    split
    · have h : weight ([] :: Text.splitOn p rest) = 1 + weight (Text.splitOn p rest) := by
        simp [weight]
      rw [h, ih, List.length_cons]
      omega
    · have h := weight_modifyHead [c] (splitOn_ne_nil p rest)
      simp only [List.cons_append, List.nil_append, List.length_cons, List.length_nil] at h
      rw [h, ih, List.length_cons]
      omega

theorem weight_splitCommas (n : Nesting) (t : Text) :
    weight (splitCommas n t) = t.length + 1 := by
  fun_induction splitCommas n t with
  | case1 => simp [weight]
  | case2 n c rest ih =>
    have h := weight_modifyHead ['\\', c] (splitCommas_ne_nil n rest)
    simp only [List.cons_append, List.nil_append, List.length_cons, List.length_nil] at h
    rw [h, ih, List.length_cons, List.length_cons]
    omega
  | case3 n c rest _ _ ih =>
    have h : weight ([] :: splitCommas n rest) = 1 + weight (splitCommas n rest) := by
      simp [weight]
    rw [h, ih, List.length_cons]
    omega
  | case4 n c rest _ _ ih =>
    have h := weight_modifyHead [c] (splitCommas_ne_nil (n.next c) rest)
    simp only [List.cons_append, List.nil_append, List.length_cons, List.length_nil] at h
    rw [h, ih, List.length_cons]
    omega

theorem length_le_weight {t : Text} {ts : List Text} (h : t ∈ ts) : t.length + 1 ≤ weight ts := by
  induction ts with
  | nil => simp at h
  | cons s rest ih =>
    simp only [weight]
    rcases List.mem_cons.1 h with rfl | h
    · omega
    · have := ih h
      omega

theorem weight_filter_le (p : Text → Bool) (ts : List Text) :
    weight (ts.filter p) ≤ weight ts := by
  induction ts with
  | nil => simp
  | cons t rest ih =>
    rw [List.filter_cons]
    split <;> simp only [weight] at ih ⊢ <;> omega

theorem length_joinWith_lt (c : Char) {ts : List Text} (h : ts ≠ []) :
    (Text.joinWith [c] ts).length + 1 = weight ts := by
  induction ts with
  | nil => exact absurd rfl h
  | cons t rest ih =>
    cases rest with
    | nil => simp [Text.joinWith, weight, List.intercalate]
    | cons s more =>
      have := ih (by simp)
      simp only [Text.joinWith, weight, List.intercalate, List.intersperse_cons_cons,
        List.flatten_cons, List.length_append, List.length_cons,
        List.length_nil] at this ⊢
      omega

/-- Squeezing makes no text longer. -/
theorem length_squeeze_le (t : Text) : (Text.squeeze t).length ≤ t.length := by
  unfold Text.squeeze
  by_cases h : Text.words t = []
  · simp [h, Text.joinWith, List.intercalate]
  · have h₁ := length_joinWith_lt ' ' h
    have h₂ := weight_filter_le (!·.isEmpty) (Text.splitOn Text.isBlank t)
    have h₃ := weight_splitOn Text.isBlank t
    unfold Text.words at h₁ ⊢
    omega

/-- An alternative is no longer than its group. -/
theorem length_alternative_le {a t : Text} (h : a ∈ alternatives t) : a.length ≤ t.length := by
  obtain ⟨raw, hraw, rfl⟩ := List.mem_map.1 (List.mem_filter.1 h).1
  have h₁ := length_squeeze_le raw
  have h₂ := length_le_weight hraw
  rw [weight_splitCommas] at h₂
  omega

end CssTrim.Selector
