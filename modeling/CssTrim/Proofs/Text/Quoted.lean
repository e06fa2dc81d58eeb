import CssTrim.Text.Quoted
import Mathlib.Algebra.Group.Nat.Defs
import Mathlib.Data.List.Basic

/-!
# Telling printed texts and integers apart

What is printed in front of a text can be read off the whole, so that two such
texts agree only when both parts do.  There are three groups.

* Integers.  Their digits end where something else follows.
* Escaped characters.  `unescape?` reads one of them back, and
  `unescape?_escapeChar_append` says that it finds the character and what follows.
* Quoted texts.  `quoted_append_inj` is the induction over the characters.
-/

namespace CssTrim.Text

/-! ## Integers -/

theorem isDigit_of_mem_ofNat {n : Nat} {c : Char} (h : c ∈ ofNat n) : c.isDigit = true :=
  Nat.isDigit_of_mem_toDigits (by decide) (by decide) h

theorem takeWhile_isDigit_ofNat_append (n : Nat) {r : Text}
    (hr : r.takeWhile Char.isDigit = []) : (ofNat n ++ r).takeWhile Char.isDigit = ofNat n := by
  rw [List.takeWhile_append_of_pos fun c hc => isDigit_of_mem_ofNat hc, hr, List.append_nil]

theorem ofNat_append_inj {m n : Nat} {r s : Text} (hr : r.takeWhile Char.isDigit = [])
    (hs : s.takeWhile Char.isDigit = []) (h : ofNat m ++ r = ofNat n ++ s) : m = n ∧ r = s := by
  have hdigits : ofNat m = ofNat n := by
    rw [← takeWhile_isDigit_ofNat_append m hr, h, takeWhile_isDigit_ofNat_append n hs]
  have hmn : m = n := by
    rw [← Nat.ofDigitChars_ten_toDigits (n := m), ← Nat.ofDigitChars_ten_toDigits (n := n)]
    exact congrArg (Nat.ofDigitChars 10 · 0) hdigits
  rw [hdigits] at h
  exact ⟨hmn, List.append_cancel_left h⟩

theorem exists_ofNat_eq (n : Nat) : ∃ c rest, ofNat n = c :: rest ∧ c.isDigit = true := by
  obtain ⟨c, rest, hdigits⟩ := List.exists_cons_of_ne_nil (Nat.toDigits_ne_nil (n := n) (b := 10))
  exact ⟨c, rest, hdigits, isDigit_of_mem_ofNat (hdigits ▸ List.mem_cons_self)⟩

/-- An integer starts with a digit or with the sign. -/
theorem exists_ofInt_eq (n : Int) :
    ∃ c rest, ofInt n = c :: rest ∧ (c.isDigit = true ∨ c = '-') := by
  cases n with
  | ofNat n =>
    obtain ⟨c, rest, hdigits, hc⟩ := exists_ofNat_eq n
    exact ⟨c, rest, hdigits, .inl hc⟩
  | negSucc n => exact ⟨'-', _, rfl, .inr rfl⟩

theorem ofNat_append_ne_minus (n : Nat) (r s : Text) : ofNat n ++ r ≠ '-' :: s := by
  intro h
  obtain ⟨c, rest, hdigits, hc⟩ := exists_ofNat_eq n
  rw [hdigits, List.cons_append, List.cons.injEq] at h
  rw [h.1] at hc
  exact absurd hc (by decide)

theorem ofInt_append_inj {m n : Int} {r s : Text} (hr : r.takeWhile Char.isDigit = [])
    (hs : s.takeWhile Char.isDigit = []) (h : ofInt m ++ r = ofInt n ++ s) : m = n ∧ r = s := by
  cases m with
  | ofNat m =>
    cases n with
    | ofNat n =>
      obtain ⟨rfl, hrest⟩ := ofNat_append_inj hr hs h
      exact ⟨rfl, hrest⟩
    | negSucc n => exact absurd h (ofNat_append_ne_minus m r _)
  | negSucc m =>
    cases n with
    | ofNat n => exact absurd h.symm (ofNat_append_ne_minus n s _)
    | negSucc n =>
      obtain ⟨hmn, hrest⟩ := ofNat_append_inj hr hs (List.cons.inj h).2
      exact ⟨by rw [Nat.succ.inj hmn], hrest⟩

/-! ## Escaped characters -/

@[simp]
theorem length_hexDigits (width n : Nat) : (hexDigits width n).length = width := by
  induction width generalizing n with
  | zero => rfl
  | succ width ih => rw [hexDigits, List.length_append, ih, List.length_singleton]

theorem hexValue?_hexDigit : ∀ n < 16, hexValue? (hexDigit n) = some n := by decide

/-- Hexadecimal digits are read as the number, when there are enough of them. -/
theorem hexNumber_hexDigits (width : Nat) {n : Nat} (h : n < 16 ^ width) :
    hexNumber (hexDigits width n) = n := by
  induction width generalizing n with
  | zero =>
    have hzero : n = 0 := by simpa using h
    subst hzero
    rfl
  | succ width ih =>
    have hfront : n / 16 < 16 ^ width :=
      Nat.div_lt_of_lt_mul (by rwa [Nat.mul_comm, ← Nat.pow_succ])
    have hvalue := hexValue?_hexDigit (n % 16) (Nat.mod_lt n (by decide))
    rw [hexNumber, hexDigits, List.foldl_append, ← hexNumber, ih hfront, List.foldl_cons,
      List.foldl_nil, hvalue, Option.getD_some]
    omega

/-- The number of hexadecimal digits that follow this letter in an escape. -/
def escapeWidth? (c : Char) : Option Nat :=
  if c = 'x' then some 2 else if c = 'u' then some 4 else if c = 'U' then some 8 else none

/-- The character that a backslash and this one stand for. -/
def shortEscape (c : Char) : Char :=
  if c = 'n' then '\n' else if c = 'r' then '\r' else if c = 't' then '\t' else c

/-- The character that is escaped at the front of a text, and the text behind it.  The quote is
none. -/
def unescape? (quote : Char) : Text → Option (Char × Text)
  | [] => none
  | ['\\'] => none
  | '\\' :: c :: rest =>
    match escapeWidth? c with
    | some width => some (Char.ofNat (hexNumber (rest.take width)), rest.drop width)
    | none => some (shortEscape c, rest)
  | c :: rest => if c = quote then none else some (c, rest)

theorem unescape?_hexDigits (quote : Char) {letter : Char} {width : Nat}
    (hwidth : escapeWidth? letter = some width) {c : Char} (hc : c.toNat < 16 ^ width) (r : Text) :
    unescape? quote ('\\' :: letter :: hexDigits width c.toNat ++ r) = some (c, r) := by
  have htake : (hexDigits width c.toNat ++ r).take width = hexDigits width c.toNat :=
    List.take_left' (length_hexDigits width _)
  have hdrop : (hexDigits width c.toNat ++ r).drop width = r :=
    List.drop_left' (length_hexDigits width _)
  rw [List.cons_append, List.cons_append, unescape?, hwidth]
  dsimp only
  rw [htake, hdrop, hexNumber_hexDigits width hc, Char.ofNat_toNat]

/-- An escaped character is read back, whatever follows. -/
theorem unescape?_escapeChar_append {quote : Char} (hquote : quote = '\x27' ∨ quote = '\x22')
    (c : Char) (r : Text) : unescape? quote (escapeChar quote c ++ r) = some (c, r) := by
  have hvalid : c.toNat < 0x110000 := by
    have h : c.toNat < 0xD800 ∨ 0xDFFF < c.toNat ∧ c.toNat < 0x110000 := c.valid
    omega
  rw [escapeChar]
  -- neither quote is a letter that an escape starts with, so a quote behind a backslash is itself
  split_ifs with hself hn hr ht hprintable hshort hlong
  · rcases hself with rfl | rfl
    · rfl
    · rcases hquote with rfl | rfl <;> rfl
  · rw [hn]; rfl
  · rw [hr]; rfl
  · rw [ht]; rfl
  · rw [not_or] at hself
    rw [List.singleton_append, unescape?, if_neg hself.2]
    · exact fun hslash _ => hself.1 hslash
    · exact fun _ _ hslash => absurd hslash hself.1
  · exact unescape?_hexDigits quote rfl (by omega) r
  · exact unescape?_hexDigits quote rfl (by omega) r
  · exact unescape?_hexDigits quote rfl (by omega) r

/-! ## Quoted texts -/

theorem quoteFor_eq_or (t : Text) : quoteFor t = '\x27' ∨ quoteFor t = '\x22' := by
  rw [quoteFor]
  split_ifs
  · exact .inr rfl
  · exact .inl rfl

theorem unescape?_quote {quote : Char} (hquote : quote = '\x27' ∨ quote = '\x22') (r : Text) :
    unescape? quote (quote :: r) = none := by
  rcases hquote with rfl | rfl <;> simp [unescape?]

/-- Escaped characters up to a quote can be read off the whole. -/
theorem flatMap_escapeChar_append_inj {quote : Char} (hquote : quote = '\x27' ∨ quote = '\x22')
    {s t r r' : Text}
    (h : s.flatMap (escapeChar quote) ++ quote :: r = t.flatMap (escapeChar quote) ++ quote :: r') :
    s = t ∧ r = r' := by
  induction s generalizing t with
  | nil =>
    cases t with
    | nil => exact ⟨rfl, (List.cons.inj h).2⟩
    | cons d t =>
      have hread := congrArg (unescape? quote) h
      rw [List.flatMap_cons, List.append_assoc, unescape?_escapeChar_append hquote] at hread
      exact absurd ((unescape?_quote hquote r).symm.trans hread) (by simp)
  | cons c s ih =>
    rw [List.flatMap_cons, List.append_assoc] at h
    have hread := congrArg (unescape? quote) h
    rw [unescape?_escapeChar_append hquote] at hread
    cases t with
    | nil => exact absurd (hread.trans (unescape?_quote hquote r')) (by simp)
    | cons d t =>
      rw [List.flatMap_cons, List.append_assoc, unescape?_escapeChar_append hquote] at hread
      obtain ⟨rfl, hrest⟩ := Prod.mk.inj (Option.some.inj hread)
      obtain ⟨rfl, hbehind⟩ := ih hrest
      exact ⟨rfl, hbehind⟩

/-- **Quoted texts.**  A quoted text in front can be read off the whole. -/
theorem quoted_append_inj {s t r r' : Text} (h : quoted s ++ r = quoted t ++ r') :
    s = t ∧ r = r' := by
  simp only [quoted, List.cons_append, List.append_assoc] at h
  obtain ⟨hquote, hrest⟩ := List.cons.inj h
  rw [← hquote] at hrest
  exact flatMap_escapeChar_append_inj (quoteFor_eq_or s) hrest

end CssTrim.Text
