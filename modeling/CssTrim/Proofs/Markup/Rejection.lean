import CssTrim.Markup.Element

/-!
# Documents that are rejected

Two pieces of markup make a document unreadable, wherever the scan meets them: a
marked section with an unknown word, and a decimal reference with too many
digits.  `events_of_section` and `events_of_longReference` show it for documents
that start with one.
-/

namespace CssTrim.Markup

open Text

/-- A document is rejected when the first step of the scan is. -/
theorem events_of_step {t : Text} {e : Rejection}
    (hstep : step (t.count '\n') none t = .error e) : events t = .error e := by
  rw [events, eventsFrom, hstep]

/-- A document that starts with a marked section that is rejected is rejected too. -/
theorem events_of_section {t : Text} {e : Rejection} (h : skipSection t = .error e) :
    events ('<' :: '!' :: '[' :: t) = .error e := by
  apply events_of_step
  simp only [step]
  rw [List.dropWhile_cons_of_neg (by decide)]
  simp only [markup, h]
  rfl

section LongReference

variable {digits : Text} (hdigits : ∀ c ∈ digits, isAsciiDigit c = true)
  (hlong : digitLimit < digits.length) (rest : Text)

include hdigits

/-- A number that starts with a decimal digit is not hexadecimal. -/
theorem isHexReference_of_digits : isHexReference (digits ++ ';' :: rest) = false := by
  cases digits with
  | nil => rfl
  | cons c digits =>
    have hx : ∀ d, isAsciiDigit d = false → c ≠ d := by
      rintro d hd rfl
      exact Bool.false_ne_true (hd.symm.trans (hdigits c List.mem_cons_self))
    rw [isHexReference, List.cons_append, List.head?_cons, Bool.or_eq_false_iff]
    simp [hx 'x' (by decide), hx 'X' (by decide)]

include hlong

theorem reference_of_longReference :
    reference ('#' :: (digits ++ ';' :: rest)) = .error (.longReference digits.length) := by
  have hhex := isHexReference_of_digits hdigits rest
  have hspan : numberDigits (digits ++ ';' :: rest) = (digits, ';' :: rest) := by
    rw [numberDigits, hhex, if_neg Bool.false_ne_true, run, List.takeWhile_append_of_pos hdigits,
      List.dropWhile_append_of_pos hdigits]
    simp [isAsciiDigit]
  have hne : digits.isEmpty = false := by
    cases digits with
    | nil => exact absurd hlong (Nat.not_lt_zero _)
    | cons => rfl
  simp only [reference, hspan, hhex, hne]
  simp [hlong, hexValue?]

/-- A document that starts with a decimal reference of too many digits is rejected. -/
theorem events_of_longReference :
    events ('&' :: '#' :: (digits ++ ';' :: rest)) = .error (.longReference digits.length) := by
  apply events_of_step
  simp only [step]
  rw [List.dropWhile_cons_of_neg (by decide)]
  show (reference ('#' :: (digits ++ ';' :: rest))).map _ = _
  rw [reference_of_longReference hdigits hlong]
  rfl

end LongReference

end CssTrim.Markup
