import CssTrim.Text

/-!
# UTF-8

Characters as one to four octets.  `encode` writes a text.  `read?` takes one
character off the front of a sequence of octets: the shortest form only, no
surrogates, nothing above the last code point.

An octet sequence that is not well-formed can be read in two ways: `decode?`
refuses it, and `decodeSkipping` leaves out what is not part of a character.
-/

namespace CssTrim.Text.Utf8

/-! ## Writing -/

/-- The octet that holds the low six bits of a number behind a mark. -/
def octet (mark n : Nat) : UInt8 := UInt8.ofNat (mark + n % 64)

/-- The octets of a character. -/
def encodeChar (c : Char) : List UInt8 :=
  let n := c.toNat
  if n < 0x80 then [UInt8.ofNat n]
  else if n < 0x800 then [UInt8.ofNat (0xC0 + n / 64), octet 0x80 n]
  else if n < 0x10000 then
    [UInt8.ofNat (0xE0 + n / 4096), octet 0x80 (n / 64), octet 0x80 n]
  else
    [UInt8.ofNat (0xF0 + n / 262144), octet 0x80 (n / 4096), octet 0x80 (n / 64), octet 0x80 n]

/-- The octets of a text. -/
def encode (t : Text) : List UInt8 := t.flatMap encodeChar

/-! ## Reading -/

/-- What the octets at the front of a sequence are. -/
inductive Front where
  /-- A character of this many octets. -/
  | char (c : Char) (size : Nat)
  /-- So many octets that begin no character, or only the beginning of one. -/
  | broken (size : Nat)

/-- The range of the octet behind a leading one. -/
def secondRange (lead : Nat) : Nat × Nat :=
  if lead = 0xE0 then (0xA0, 0xBF)
  else if lead = 0xED then (0x80, 0x9F)
  else if lead = 0xF0 then (0x90, 0xBF)
  else if lead = 0xF4 then (0x80, 0x8F)
  else (0x80, 0xBF)

/-- The number of octets that follow a leading one, if it leads. -/
def following? (lead : Nat) : Option Nat :=
  if 0xC2 ≤ lead ∧ lead ≤ 0xDF then some 1
  else if 0xE0 ≤ lead ∧ lead ≤ 0xEF then some 2
  else if 0xF0 ≤ lead ∧ lead ≤ 0xF4 then some 3
  else none

/-- Reads on inside a character.  `value` is the number so far, `size` the octets so far, and
`range` holds the octets that may come next. -/
def readTail (value size : Nat) (range : Nat × Nat) : Nat → List UInt8 → Front
  | 0, _ => .char (Char.ofNat value) size
  | _ + 1, [] => .broken size
  | left + 1, b :: rest =>
    if range.1 ≤ b.toNat ∧ b.toNat ≤ range.2 then
      readTail (value * 64 + b.toNat % 64) (size + 1) (0x80, 0xBF) left rest
    else .broken size

/-- Reads the front of a sequence that starts with the octet `lead`. -/
def front (lead : UInt8) (rest : List UInt8) : Front :=
  let n := lead.toNat
  if n < 0x80 then .char (Char.ofNat n) 1
  else
    match following? n with
    | none => .broken 1
    | some left =>
      let bits := if left = 1 then n % 32 else if left = 2 then n % 16 else n % 8
      readTail bits 1 (secondRange n) left rest

/-- The octets behind the front.  At least one is taken. -/
def behind (size : Nat) (rest : List UInt8) : List UInt8 := rest.drop (size - 1)

theorem length_behind_le (size : Nat) (rest : List UInt8) :
    (behind size rest).length ≤ rest.length := by
  simp [behind]

/-- The text of a well-formed sequence. -/
def decode? (bytes : List UInt8) : Option Text :=
  match bytes with
  | [] => some []
  | b :: rest =>
    match front b rest with
    | .char c size => (decode? (behind size rest)).map (c :: ·)
    | .broken _ => none
termination_by bytes.length
decreasing_by exact Nat.lt_succ_of_le (length_behind_le _ _)

/-- The text of a sequence without the octets that are part of no character. -/
def decodeSkipping (bytes : List UInt8) : Text :=
  match bytes with
  | [] => []
  | b :: rest =>
    match front b rest with
    | .char c size => c :: decodeSkipping (behind size rest)
    | .broken size => decodeSkipping (behind size rest)
termination_by bytes.length
decreasing_by all_goals exact Nat.lt_succ_of_le (length_behind_le _ _)

end CssTrim.Text.Utf8
