import CssTrim.Text.LineBreak
import CssTrim.Text.Utf8
import Mathlib.Data.List.Basic

/-!
# Reading what was written

Reading the octets of a text gives the text, but not every sequence of octets is
one of a text.  There are three groups.

* Characters, one lemma for each number of octets.  `Utf8.exists_front_encodeChar`
  puts them together.
* Texts.  `Utf8.decodeSkipping_encode` is the induction.
* Line breaks.  `encode_unifyBreaks_decodeSkipping_iff` says which octets come back
  when they are read as a text and written again.
-/

namespace CssTrim.Text

namespace Utf8

/-! ## Characters -/

theorem toNat_octet (m : Nat) : (octet 0x80 m).toNat = 0x80 + m % 64 := by
  rw [octet, UInt8.toNat_ofNat']
  omega

/-- An octet behind the leading one adds six bits. -/
theorem readTail_octet {range : Nat × Nat} {m : Nat} (hlow : range.1 ≤ 0x80 + m % 64)
    (hhigh : 0x80 + m % 64 ≤ range.2) (value size left : Nat) (rest : List UInt8) :
    readTail value size range (left + 1) (octet 0x80 m :: rest) =
      readTail (value * 64 + m % 64) (size + 1) (0x80, 0xBF) left rest := by
  have hbits : (0x80 + m % 64) % 64 = m % 64 := by omega
  rw [readTail, toNat_octet, if_pos ⟨hlow, hhigh⟩, hbits]

/-- An octet behind the second one may be any of those that lead nothing. -/
theorem readTail_octet_behind (value size left m : Nat) (rest : List UInt8) :
    readTail value size (0x80, 0xBF) (left + 1) (octet 0x80 m :: rest) =
      readTail (value * 64 + m % 64) (size + 1) (0x80, 0xBF) left rest :=
  readTail_octet (by omega) (by omega) value size left rest

/-- A leading octet tells how many others belong to its character. -/
theorem front_eq {lead : UInt8} {left : Nat} (hlead : 0x80 ≤ lead.toNat)
    (hleft : following? lead.toNat = some left) (rest : List UInt8) :
    front lead rest =
      readTail (if left = 1 then lead.toNat % 32 else if left = 2 then lead.toNat % 16
        else lead.toNat % 8) 1 (secondRange lead.toNat) left rest := by
  rw [front, if_neg (Nat.not_lt.2 hlead), hleft]

theorem front_one {n : Nat} (h : n < 0x80) (rest : List UInt8) :
    front (UInt8.ofNat n) rest = .char (Char.ofNat n) 1 := by
  have hlead : (UInt8.ofNat n).toNat = n := by
    rw [UInt8.toNat_ofNat']
    omega
  rw [front, hlead, if_pos h]

theorem front_two {n : Nat} (hlow : 0x80 ≤ n) (hhigh : n < 0x800) (rest : List UInt8) :
    front (UInt8.ofNat (0xC0 + n / 64)) (octet 0x80 n :: rest) = .char (Char.ofNat n) 2 := by
  have hlead : (UInt8.ofNat (0xC0 + n / 64)).toNat = 0xC0 + n / 64 := by
    rw [UInt8.toNat_ofNat']
    omega
  have hleft : following? (0xC0 + n / 64) = some 1 := by rw [following?, if_pos (by omega)]
  have hrange : (secondRange (0xC0 + n / 64)).1 ≤ 0x80 + n % 64 ∧
      0x80 + n % 64 ≤ (secondRange (0xC0 + n / 64)).2 := by
    unfold secondRange
    split_ifs <;> constructor <;> dsimp only <;> omega
  have hvalue : (0xC0 + n / 64) % 32 * 64 + n % 64 = n := by omega
  rw [front_eq (by omega) (by rw [hlead, hleft]), hlead, if_pos rfl,
    readTail_octet hrange.1 hrange.2, readTail, hvalue]

theorem front_three {n : Nat} (hlow : 0x800 ≤ n) (hhigh : n < 0x10000)
    (hvalid : n < 0xD800 ∨ 0xDFFF < n) (rest : List UInt8) :
    front (UInt8.ofNat (0xE0 + n / 4096)) (octet 0x80 (n / 64) :: octet 0x80 n :: rest) =
      .char (Char.ofNat n) 3 := by
  have hlead : (UInt8.ofNat (0xE0 + n / 4096)).toNat = 0xE0 + n / 4096 := by
    rw [UInt8.toNat_ofNat']
    omega
  have hleft : following? (0xE0 + n / 4096) = some 2 := by
    rw [following?, if_neg (by omega), if_pos (by omega)]
  have hrange : (secondRange (0xE0 + n / 4096)).1 ≤ 0x80 + n / 64 % 64 ∧
      0x80 + n / 64 % 64 ≤ (secondRange (0xE0 + n / 4096)).2 := by
    unfold secondRange
    split_ifs <;> constructor <;> dsimp only <;> omega
  have hvalue : ((0xE0 + n / 4096) % 16 * 64 + n / 64 % 64) * 64 + n % 64 = n := by omega
  rw [front_eq (by omega) (by rw [hlead, hleft]), hlead, if_neg (by decide), if_pos rfl,
    readTail_octet hrange.1 hrange.2, readTail_octet_behind, readTail, hvalue]

theorem front_four {n : Nat} (hlow : 0x10000 ≤ n) (hhigh : n < 0x110000) (rest : List UInt8) :
    front (UInt8.ofNat (0xF0 + n / 262144))
        (octet 0x80 (n / 4096) :: octet 0x80 (n / 64) :: octet 0x80 n :: rest) =
      .char (Char.ofNat n) 4 := by
  have hlead : (UInt8.ofNat (0xF0 + n / 262144)).toNat = 0xF0 + n / 262144 := by
    rw [UInt8.toNat_ofNat']
    omega
  have hleft : following? (0xF0 + n / 262144) = some 3 := by
    rw [following?, if_neg (by omega), if_neg (by omega), if_pos (by omega)]
  have hrange : (secondRange (0xF0 + n / 262144)).1 ≤ 0x80 + n / 4096 % 64 ∧
      0x80 + n / 4096 % 64 ≤ (secondRange (0xF0 + n / 262144)).2 := by
    unfold secondRange
    split_ifs <;> constructor <;> dsimp only <;> omega
  have hvalue : (((0xF0 + n / 262144) % 8 * 64 + n / 4096 % 64) * 64 + n / 64 % 64) * 64 + n % 64 =
      n := by omega
  rw [front_eq (by omega) (by rw [hlead, hleft]), hlead, if_neg (by decide), if_neg (by decide),
    readTail_octet hrange.1 hrange.2, readTail_octet_behind, readTail_octet_behind, readTail,
      hvalue]

/-- The octets of a character are read as the character, whatever follows. -/
theorem exists_front_encodeChar (c : Char) : ∃ lead tail, encodeChar c = lead :: tail ∧
    ∀ rest, front lead (tail ++ rest) = .char c (tail.length + 1) := by
  have hvalid : c.toNat < 0xD800 ∨ 0xDFFF < c.toNat ∧ c.toNat < 0x110000 := c.valid
  have hchar : Char.ofNat c.toNat = c := Char.ofNat_toNat c
  rw [encodeChar]
  split
  · rename_i hone
    refine ⟨_, _, rfl, fun rest => ?_⟩
    rw [front_one hone, hchar]
    rfl
  · rename_i hone
    split
    · rename_i htwo
      refine ⟨_, _, rfl, fun rest => ?_⟩
      exact (front_two (by omega) htwo rest).trans (by rw [hchar]; rfl)
    · rename_i htwo
      split
      · rename_i hthree
        refine ⟨_, _, rfl, fun rest => ?_⟩
        exact (front_three (by omega) hthree (by omega) rest).trans (by rw [hchar]; rfl)
      · refine ⟨_, _, rfl, fun rest => ?_⟩
        exact (front_four (by omega) (by omega) rest).trans (by rw [hchar]; rfl)

/-! ## Texts -/

theorem encode_append (s t : Text) : encode (s ++ t) = encode s ++ encode t := List.flatMap_append

theorem decodeSkipping_encodeChar_append (c : Char) (bytes : List UInt8) :
    decodeSkipping (encodeChar c ++ bytes) = c :: decodeSkipping bytes := by
  obtain ⟨lead, tail, hencode, hfront⟩ := exists_front_encodeChar c
  have hbehind : behind (tail.length + 1) (tail ++ bytes) = bytes := by
    rw [behind, Nat.add_sub_cancel, List.drop_left]
  rw [hencode, List.cons_append, decodeSkipping, hfront]
  dsimp only
  rw [hbehind]

/-- The octets of a text are read as the text. -/
theorem decodeSkipping_encode (t : Text) : decodeSkipping (encode t) = t := by
  induction t with
  | nil => rw [encode, List.flatMap_nil, decodeSkipping]
  | cons c t ih =>
    rw [encode, List.flatMap_cons, decodeSkipping_encodeChar_append, ← encode, ih]

theorem encode_injective : Function.Injective encode :=
  Function.LeftInverse.injective decodeSkipping_encode

end Utf8

/-! ## Line breaks -/

theorem not_mem_unifyBreaks (t : Text) : '\r' ∉ unifyBreaks t := by
  fun_induction unifyBreaks t with
  | case1 => exact List.not_mem_nil
  | case2 rest ih => simpa using ih
  | case3 c rest _ ih =>
    rw [List.mem_cons, not_or]
    refine ⟨?_, ih⟩
    split
    · decide
    · rename_i hc
      exact Ne.symm hc

theorem unifyBreaks_eq_self {t : Text} (h : '\r' ∉ t) : unifyBreaks t = t := by
  induction t with
  | nil => rw [unifyBreaks]
  | cons c t ih =>
    rw [List.mem_cons, not_or] at h
    have hc : c ≠ '\r' := Ne.symm h.1
    rw [unifyBreaks, if_neg hc, ih h.2]
    rintro rest rfl
    exact absurd rfl hc

/-- **What comes back.**  Octets that are read as a text and written again are the same if and only
if they are those of a text without carriage returns. -/
theorem encode_unifyBreaks_decodeSkipping_iff {bytes : List UInt8} :
    Utf8.encode (unifyBreaks (Utf8.decodeSkipping bytes)) = bytes ↔
      ∃ t, '\r' ∉ t ∧ bytes = Utf8.encode t := by
  constructor
  · intro h
    exact ⟨_, not_mem_unifyBreaks _, h.symm⟩
  · rintro ⟨t, ht, rfl⟩
    rw [Utf8.decodeSkipping_encode, unifyBreaks_eq_self ht]

end CssTrim.Text
