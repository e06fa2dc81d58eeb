import CssTrim.Proofs.Block.Serialize
import CssTrim.Proofs.Classify.UsedClass
import CssTrim.Proofs.Selector.Name
import CssTrim.Proofs.Selector.Parse

/-!
# The spellings of a class

A selector may write any character of a name as an escape: behind a backslash, or as
the hexadecimal number of its code point.  Every way to write a class is read as the
class.  There are four groups.

* Letters.  A `Letter` is one character of a name together with the way in which it
  is written.  Only the code of a character ends with a space, which is `Letter.gap`;
  at the end of a selector nothing is left of it.
* Names and groups.  What each scanner of a selector does with a letter in front of
  any text: `readName_text`, `splitCommas_core` and `spaced_core`.
* Stylesheets.  The lexemes of a letter end no header: `Letter.inert_text`.
* `uses_of_spelling` goes through all of them, from a stylesheet to the usage.
-/

namespace CssTrim.Selector

/-! ## Letters -/

/-- A character of a name and how it is written in a selector. -/
inductive Letter where
  /-- The character as it is. -/
  | plain (c : Char) (hname : isNameChar c = true)
  /-- A backslash and the character, which must not be taken for a digit of a code. -/
  | escaped (c : Char) (hdigit : Text.hexValue? c = none)
  /-- A backslash, the code point of the character in hexadecimal digits, and a space. -/
  | code (c : Char) (digits : Text) (hne : digits ≠ []) (hlength : digits.length ≤ 6)
      (hdigits : ∀ d ∈ digits, (Text.hexValue? d).isSome = true)
      (hcode : Text.hexNumber digits = c.toNat)

namespace Letter

/-- The character that a letter stands for. -/
def char : Letter → Char
  | plain c _ | escaped c _ | code c _ _ _ _ _ => c

/-- A letter without the space behind a code. -/
def core : Letter → Text
  | plain c _ => [c]
  | escaped c _ => ['\\', c]
  | code _ digits _ _ _ _ => '\\' :: digits

/-- The space behind a code. -/
def gap : Letter → Text
  | plain .. | escaped .. => []
  | code .. => [' ']

/-- A letter as it is written. -/
def text (l : Letter) : Text := l.core ++ l.gap

theorem gap_eq (l : Letter) : l.gap = [] ∨ l.gap = [' '] := by
  cases l with
  | plain | escaped => exact .inl rfl
  | code => exact .inr rfl

theorem core_ne_nil (l : Letter) : l.core ≠ [] := by
  cases l <;> simp [core]

end Letter

/-! ## Names and groups -/

theorem charOfCode_toNat (c : Char) : charOfCode c.toNat = c := by
  have hvalid : c.toNat.isValidChar := c.valid
  rw [charOfCode, if_pos hvalid, Char.ofNat_toNat]

namespace Letter

/-- A letter is read as its character. -/
theorem readName_text (l : Letter) (rest : Text) :
    readName (l.text ++ rest) = (readName rest).map (l.char :: ·) id := by
  cases l with
  | plain c hname =>
    show readName (c :: rest) = _
    rw [readName_cons (ne_of_class hname (by decide)), if_pos hname]
    rfl
  | escaped c hdigit => exact readName_escaped hdigit rest
  | code c digits hne hlength hdigits hcode =>
    have hspace : ∀ d ∈ (' ' :: rest).head?, Text.hexValue? d = none := by
      rintro d ⟨⟩
      decide
    have hread := (IsCode.mk hne hdigits hlength (.inr hspace)).readName
    rw [hcode, charOfCode_toNat] at hread
    show readName ('\\' :: digits ++ [' '] ++ rest) = _
    rw [List.append_assoc]
    exact hread

/-- At the end of a name a code needs no space. -/
theorem readName_core (l : Letter) : readName l.core = ([l.char], []) := by
  have hnil : readName [] = ([], []) := by rw [readName]
  cases l with
  | plain c hname =>
    show readName [c] = _
    rw [readName_cons (ne_of_class hname (by decide)), if_pos hname, hnil]
    rfl
  | escaped c hdigit =>
    show readName ['\\', c] = _
    rw [readName_escaped hdigit, hnil]
    rfl
  | code c digits hne hlength hdigits hcode =>
    have hend : ∀ d ∈ ([] : Text).head?, Text.hexValue? d = none := by simp
    have hread := (IsCode.mk hne hdigits hlength (.inr hend)).readName
    rw [List.append_nil, hcode, charOfCode_toNat] at hread
    show readName ('\\' :: digits) = _
    rw [hread, show dropSpace [] = [] from rfl, hnil]
    rfl

/-- There is no comma in a letter that separates alternatives. -/
theorem splitCommas_core (l : Letter) (rest : Text) :
    splitCommas {} (l.core ++ rest) = (splitCommas {} rest).modifyHead (l.core ++ ·) := by
  have hplain : ∀ {c : Char}, isNameChar c = true → (isPlain c && c != ',') = true := by
    intro c hc
    rw [isPlain_of_isNameChar hc, Bool.true_and, bne_iff_ne]
    exact ne_of_class hc (by decide)
  cases l with
  | plain c hname =>
    have hclosed : Closed (· != ',') [c] := .of_all (by simpa using hplain hname)
    exact hclosed.splitCommas_append rfl (.inl rfl) rest
  | escaped c _ => rfl
  | code c digits hne _ hdigits _ =>
    obtain ⟨first, more, rfl⟩ := List.exists_cons_of_ne_nil hne
    have hclosed : Closed (· != ',') more := by
      refine .of_all (List.all_eq_true.2 fun d hd => ?_)
      exact hplain (isNameChar_of_hexValue? (hdigits d (List.mem_cons_of_mem first hd))).1
    show splitCommas {} ('\\' :: first :: (more ++ rest)) = _
    rw [splitCommas, hclosed.splitCommas_append rfl (.inl rfl), List.modifyHead_modifyHead]
    rfl

theorem splitCommas_gap (l : Letter) (rest : Text) :
    splitCommas {} (l.gap ++ rest) = (splitCommas {} rest).modifyHead (l.gap ++ ·) := by
  have hclosed : Closed (· != ',') l.gap := by
    rcases l.gap_eq with h | h <;> rw [h] <;> exact .of_all (by decide)
  exact hclosed.splitCommas_append rfl (.inl rfl) rest

/-- The only blank of a letter is its gap. -/
theorem spaced_core {l : Letter} (hblank : Text.isBlank l.char = false) :
    Text.Spaced l.core := by
  refine .of_forall l.core_ne_nil fun d hd => ?_
  have hbackslash : Text.isBlank '\\' = false := by decide
  cases l with
  | plain c _ =>
    rw [List.mem_singleton.1 hd]
    exact hblank
  | escaped c _ =>
    rcases List.mem_cons.1 hd with rfl | hd
    · exact hbackslash
    · rw [List.mem_singleton.1 hd]
      exact hblank
  | code c digits _ _ hdigits _ =>
    rcases List.mem_cons.1 hd with rfl | hd
    · exact hbackslash
    · exact (isNameChar_of_hexValue? (hdigits d hd)).2

theorem spaced_text_append {l : Letter} (hblank : Text.isBlank l.char = false) {t : Text}
    (ht : Text.Spaced t) : Text.Spaced (l.text ++ t) := by
  rw [text, List.append_assoc]
  rcases l.gap_eq with h | h
  · rw [h]
    exact (spaced_core hblank).append ht
  · rw [h]
    exact (spaced_core hblank).append_space ht

end Letter

/-- What is left of letters that nothing follows. -/
def shown : List Letter → Text
  | [] => []
  | [l] => l.core
  | l :: m :: more => l.text ++ shown (m :: more)

/-- Nothing but the last gap is missing. -/
theorem exists_gap_shown {letters : List Letter} (hne : letters ≠ []) :
    ∃ l : Letter, letters.flatMap Letter.text = shown letters ++ l.gap := by
  induction letters with
  | nil => exact absurd rfl hne
  | cons l letters ih =>
    cases letters with
    | nil => exact ⟨l, by simp [shown, Letter.text]⟩
    | cons m more =>
      obtain ⟨last, hlast⟩ := ih (List.cons_ne_nil m more)
      exact ⟨last, by rw [List.flatMap_cons, hlast, shown, List.append_assoc]⟩

/-- Letters are read as their characters. -/
theorem readName_shown (letters : List Letter) :
    readName (shown letters) = (letters.map Letter.char, []) := by
  induction letters with
  | nil => rw [shown, readName, List.map_nil]
  | cons l letters ih =>
    cases letters with
    | nil => exact l.readName_core
    | cons m more =>
      rw [shown, l.readName_text, ih]
      rfl

theorem splitCommas_shown (letters : List Letter) :
    splitCommas {} (shown letters) = [shown letters] := by
  induction letters with
  | nil => rfl
  | cons l letters ih =>
    cases letters with
    | nil =>
      have hcore := l.splitCommas_core []
      rw [List.append_nil, splitCommas, List.modifyHead_cons, List.append_nil] at hcore
      exact hcore
    | cons m more =>
      rw [shown, Letter.text, List.append_assoc, l.splitCommas_core, l.splitCommas_gap, ih]
      rfl

theorem spaced_shown {letters : List Letter} (hne : letters ≠ [])
    (hblank : ∀ l ∈ letters, Text.isBlank l.char = false) : Text.Spaced (shown letters) := by
  induction letters with
  | nil => exact absurd rfl hne
  | cons l letters ih =>
    obtain ⟨hl, hletters⟩ := List.forall_mem_cons.1 hblank
    cases letters with
    | nil => exact Letter.spaced_core hl
    | cons m more => exact Letter.spaced_text_append hl (ih (List.cons_ne_nil m more) hletters)

/-- A spelled class is one alternative of its own. -/
theorem alternatives_shown {letters : List Letter} (hne : letters ≠ [])
    (hblank : ∀ l ∈ letters, Text.isBlank l.char = false) :
    alternatives ('.' :: shown letters) = ['.' :: shown letters] := by
  have hspaced : Text.Spaced ('.' :: shown letters) := .solid (by decide) (spaced_shown hne hblank)
  have hsplit : splitCommas {} ('.' :: shown letters) = ['.' :: shown letters] := by
    have hdot : Closed (· != ',') ['.'] := .of_all (by decide)
    have h := hdot.splitCommas_append (n := {}) rfl (.inl rfl) (shown letters)
    rw [splitCommas_shown] at h
    exact h
  rw [alternatives, hsplit, List.map_singleton, hspaced.squeeze_eq]
  rfl

theorem simples_shown {letters : List Letter} (hne : letters ≠ []) :
    simples ('.' :: shown letters) = [.className (letters.map Letter.char)] := by
  have hname : (letters.map Letter.char).isEmpty = false := by simpa using hne
  rw [simples_className, readName_shown, consNamed, hname, simples_nil]
  rfl

end CssTrim.Selector

/-! ## Stylesheets -/

namespace CssTrim

/-- Whether a lexeme belongs to a header and opens and closes nothing in it. -/
def Lexeme.isInert : Lexeme → Bool
  | plain c => !"\x7b\x7d;()[]".toList.contains c
  | escape _ => true
  | quoted .. | comment _ => false

namespace Text

/-- Whether a text is read as inert lexemes, whatever follows it. -/
def Inert (t : Text) : Prop :=
  ∃ ls : List Lexeme, (∀ l ∈ ls, l.isInert = true) ∧
    ∀ rest, lexemes (t ++ rest) = ls ++ lexemes rest

namespace Inert

theorem nil : Inert [] := ⟨[], by simp, fun _ => rfl⟩

theorem append {s t : Text} (hs : Inert s) (ht : Inert t) : Inert (s ++ t) := by
  obtain ⟨xs, hxs, hreads⟩ := hs
  obtain ⟨ys, hys, hreadt⟩ := ht
  refine ⟨xs ++ ys, List.forall_mem_append.2 ⟨hxs, hys⟩, fun rest => ?_⟩
  rw [List.append_assoc, hreads, hreadt, List.append_assoc]

theorem escape (c : Char) : Inert ['\\', c] :=
  ⟨[.escape c], by simp [Lexeme.isInert], fun rest => lexemes_escape c rest⟩

/-- Characters that open and close nothing and escape nothing. -/
theorem of_all {t : Text} (h : ∀ c ∈ t, c ∉ "\x7b\x7d;()[]\\/\x22\x27".toList) : Inert t := by
  induction t with
  | nil => exact nil
  | cons c t ih =>
    obtain ⟨hc, ht⟩ := List.forall_mem_cons.1 h
    refine append (s := [c]) ⟨[.plain c], ?_, fun rest => ?_⟩ (ih ht)
    · simp_all [Lexeme.isInert]
    · have hquote : isQuote c = false := by simp_all [isQuote]
      have hescape : c ≠ '\\' := by simp_all
      have hslash : c ≠ '/' := by simp_all
      rw [List.singleton_append, lexemes_cons (fun h => absurd h hescape)
        (fun h => absurd h hslash), hquote]
      rfl

end Inert

end Text

namespace Piece

/-- Inert lexemes end no header. -/
theorem noHeaderEnd_of_inert {ls : List Lexeme} (h : ∀ l ∈ ls, l.isInert = true) :
    NoHeaderEnd 0 ls := by
  induction ls with
  | nil => rfl
  | cons l ls ih =>
    obtain ⟨hl, hls⟩ := List.forall_mem_cons.1 h
    have hbrackets : bracketsAfter 0 l = 0 := by
      unfold bracketsAfter
      split <;> simp_all [Lexeme.isInert]
    have hends : endsHeader 0 l = false := by
      rw [← Bool.not_eq_true, endsHeader_iff]
      rintro (rfl | rfl | ⟨rfl, -⟩) <;> simp [Lexeme.isInert] at hl
    rw [noHeaderEnd_cons_iff, hbrackets]
    exact ⟨hends, ih hls⟩

end Piece

namespace Block

/-- A class selector of inert lexemes in front of an empty body is a stylesheet of one style
rule. -/
theorem segment_of_inert {t : Text} (h : Text.Inert t) :
    ∃ b, segment ('.' :: t ++ "\x7b\x7d".toList) = [b] ∧ b.passthrough = false ∧
      b.malformed = false ∧ b.isAtRule = false ∧ b.selectors = Text.trim ('.' :: t) := by
  obtain ⟨ls, hls, hread⟩ := h
  have htext : Lexeme.textOf ls = t := by
    have hend := hread []
    rw [Text.lexemes_nil, List.append_nil, List.append_nil] at hend
    rw [← hend, Text.textOf_lexemes]
  have hheader : ∀ l ∈ Lexeme.plain '.' :: ls, l.isInert = true :=
    List.forall_mem_cons.2 ⟨by decide, hls⟩
  have hnone : (Lexeme.plain '.' :: ls).filter (!·.isComment) = .plain '.' :: ls := by
    rw [List.filter_eq_self]
    intro l hl
    have hinert := hheader l hl
    cases l with
    | comment => simp [Lexeme.isInert] at hinert
    | plain | escape | quoted => rfl
  have hlexemes : Text.lexemes ('.' :: t ++ "\x7b\x7d".toList) =
      (Piece.rule (.plain '.' :: ls) [] true).lexemes := by
    have hbody : Text.lexemes "\x7b\x7d".toList = [.plain '\x7b', .plain '\x7d'] := by
      decide +kernel
    rw [List.cons_append, Text.lexemes_cons (by simp) (by simp), if_neg (by decide), hread, hbody,
      Piece.lexemes]
    simp
  have hwhole : Piece.Whole (.rule (.plain '.' :: ls) [] true) :=
    .rule ⟨.plain '.', _, rfl, by decide, rfl⟩ (Piece.noHeaderEnd_of_inert hheader)
      (Lexeme.nested_nil_iff.2 (Int.le_refl 0)) rfl
  have hpieces : Piece.ofLexemes (Piece.rule (.plain '.' :: ls) [] true).lexemes =
      [.rule (.plain '.' :: ls) [] true] := Piece.ofLexemes_lexemes (.inl hwhole)
  have hselectors : Text.trim (Lexeme.textOf (.plain '.' :: ls)) = '.' :: Text.trimEnd t := by
    rw [Lexeme.textOf_cons, htext]
    show Text.trim ('.' :: t) = _
    rw [Text.trim_cons (by decide), Text.trimEnd_cons (by decide)]
  have hkeyword : atKeyword? ('.' :: Text.trimEnd t) = none := rfl
  refine ⟨ofPiece 0 (.rule (.plain '.' :: ls) [] true), ?_, ?_⟩
  · rw [segment, hlexemes, hpieces]
    rfl
  · rw [ofPiece, ofRule, hnone, hselectors, hkeyword, Text.trim_cons (by decide),
      Text.trimEnd_cons (by decide)]
    exact ⟨rfl, rfl, rfl, rfl⟩

end Block

namespace Selector

namespace Letter

/-- The lexemes of a letter end no header. -/
theorem inert_text (l : Letter) : Text.Inert l.text := by
  have hsigns : ("\x7b\x7d;()[]\\/\x22\x27".toList).any isNameChar = false := by decide
  have hplain : ∀ {c : Char}, isNameChar c = true → c ∉ "\x7b\x7d;()[]\\/\x22\x27".toList := by
    intro c hname hc
    exact List.any_eq_false.1 hsigns c hc hname
  have hspace : Text.Inert [' '] := .of_all (List.forall_mem_singleton.2 (by decide))
  cases l with
  | plain c hname =>
    exact .append (.of_all (List.forall_mem_singleton.2 (hplain hname))) .nil
  | escaped c _ => exact .append (.escape c) .nil
  | code c digits hne _ hdigits _ =>
    obtain ⟨first, more, rfl⟩ := List.exists_cons_of_ne_nil hne
    have hmore : Text.Inert more := .of_all fun d hd =>
      hplain (isNameChar_of_hexValue? (hdigits d (List.mem_cons_of_mem first hd))).1
    exact .append (.append (.escape first) hmore) hspace

end Letter

theorem inert_flatMap (letters : List Letter) : Text.Inert (letters.flatMap Letter.text) := by
  induction letters with
  | nil => exact .nil
  | cons l letters ih => exact .append l.inert_text ih

/-! ## From a stylesheet to the usage -/

/-- What is left of a spelled class in the selectors of a rule. -/
theorem trim_flatMap {letters : List Letter} (hne : letters ≠ [])
    (hblank : ∀ l ∈ letters, Text.isBlank l.char = false) :
    Text.trim ('.' :: letters.flatMap Letter.text) = '.' :: shown letters := by
  obtain ⟨last, htext⟩ := exists_gap_shown hne
  have hgap : Text.isBlankText last.gap = true := by
    rcases last.gap_eq with h | h <;> rw [h] <;> decide
  have hspaced : Text.Spaced ('.' :: shown letters) := .solid (by decide) (spaced_shown hne hblank)
  rw [htext, ← List.cons_append, Text.trim_append_right_of_isBlankText _ hgap, hspaced.trim_eq]

/-- **Every spelling of a class is read as the class.**  A stylesheet of one rule for a class is cut
into this rule, whatever letters the class is written in.  The selectors of the rule are one
alternative, its only simple selector is the class, and a usage that has the class uses it. -/
theorem uses_of_spelling {letters : List Letter} (hne : letters ≠ [])
    (hblank : ∀ l ∈ letters, Text.isBlank l.char = false) :
    let name := letters.map Letter.char
    ∃ b alternative,
      Block.segment ('.' :: letters.flatMap Letter.text ++ "\x7b\x7d".toList) = [b] ∧
        b.passthrough = false ∧ b.malformed = false ∧ b.isAtRule = false ∧
          alternatives b.selectors = [alternative] ∧ simples alternative = [.className name] ∧
            ∀ u : Usage, name ∈ u.classes ∨ name ∈ u.utilities → u.uses alternative = true := by
  intro name
  obtain ⟨b, hsegment, hrule, hclosed, hstyle, hselectors⟩ :=
    Block.segment_of_inert (inert_flatMap letters)
  rw [trim_flatMap hne hblank] at hselectors
  have hsimples := simples_shown hne
  refine ⟨b, '.' :: shown letters, hsegment, hrule, hclosed, hstyle, ?_, hsimples, ?_⟩
  · rw [hselectors]
    exact alternatives_shown hne hblank
  · intro u hu
    have hmem : .className name ∈ simples ('.' :: shown letters) := by simp [hsimples, name]
    exact Usage.uses_of_mem_simples hmem (Usage.has_className_iff.2 hu)

/-- A digit and a brace as codes, a quote behind a backslash, and at the end a code that is followed
by nothing. -/
theorem uses_of_spelling_codes :
    let letters : List Letter :=
      [.code '1' "31".toList (by decide) (by decide) (List.all_eq_true.1 (by decide)) (by decide),
        .code '\x7b' "00007B".toList (by decide) (by decide) (List.all_eq_true.1 (by decide))
          (by decide),
        .escaped '\x22' (by decide), .plain 'é' (by decide), .escaped ',' (by decide),
        .code '/' "2f".toList (by decide) (by decide) (List.all_eq_true.1 (by decide))
          (by decide)]
    (∀ l ∈ letters, Text.isBlank l.char = false) ∧
      letters.flatMap Letter.text = "\\31 \\00007B \\\x22é\\,\\2f ".toList ∧
        ∃ b alternative,
          Block.segment ".\\31 \\00007B \\\x22é\\,\\2f \x7b\x7d".toList = [b] ∧
            b.passthrough = false ∧ b.malformed = false ∧ b.isAtRule = false ∧
              alternatives b.selectors = [alternative] ∧
                simples alternative = [.className "1\x7b\x22é,/".toList] ∧
                  ∀ u : Usage, "1\x7b\x22é,/".toList ∈ u.classes ∨
                    "1\x7b\x22é,/".toList ∈ u.utilities → u.uses alternative = true := by
  intro letters
  have hblank : ∀ l ∈ letters, Text.isBlank l.char = false := by decide
  have hne : letters ≠ [] := by decide
  exact ⟨hblank, rfl, uses_of_spelling hne hblank⟩

end Selector

end CssTrim
