import CssTrim.Proofs.Classify.UsedClass
import CssTrim.Proofs.Selector.Parse
import CssTrim.Proofs.Text.Character
import CssTrim.Proofs.Usage.Phrase

/-!
# Attributes whose names need escapes

The attributes of a tag are recorded by their names.  A selector for an attribute has
to write some of these names with backslashes, such as that of `xlink:href`.  Is the
name found again?  There are three groups.

* Names, as they are read from a tag, and the escapes that they need in a selector.
* Selectors for an attribute.  The name in the brackets is taken as it is written:
  `uses_brackets_iff`.
* `uses_escape_iff`: the usage of an attribute reaches its selector exactly if the name
  needs no escape, or else if the selector is recorded with its escapes.
-/

namespace CssTrim

/-! ## Names -/

namespace Usage

/-- Names in lower case that are read from the attributes of some tag. -/
structure IsAttributeName (n : Text) : Prop where
  read : ∃ before t left, attributeName before t = some (n, left)
  lowered : Text.lower n = n

/-- A character of the name of an attribute. -/
def isNamePart (c : Char) : Bool := c == '@' || isSelectorNameChar c

theorem isNamePart_of_isAsciiLetter {c : Char} (h : Text.isAsciiLetter c = true) :
    isNamePart c = true := by
  have hall : ∀ c : Char, c.toNat < 128 → Text.isAsciiLetter c = true → isNamePart c = true :=
    Text.forall_ascii (by decide)
  exact hall c (Text.toNat_lt_of_isAsciiLetter h) h

theorem isBlank_of_isNamePart {c : Char} (h : isNamePart c = true) : Text.isBlank c = false := by
  rw [← Bool.not_eq_true]
  intro hblank
  have hword := Text.isWordChar_of_isBlank hblank
  simp only [isNamePart, isSelectorNameChar, hword, Bool.or_false, Bool.or_eq_true,
    beq_iff_eq] at h
  rcases h with rfl | (rfl | rfl) | rfl
  · exact absurd hblank (by decide)
  · exact absurd hblank (by decide)
  · exact absurd hblank (by decide)
  · exact absurd hblank (by decide)

/-- What is read as a name is not empty and of the characters of names. -/
theorem IsAttributeName.forall_mem {n : Text} (h : IsAttributeName n) :
    n ≠ [] ∧ ∀ c ∈ n, isNamePart c = true := by
  obtain ⟨before, t, left, hread⟩ := h.read
  unfold attributeName at hread
  obtain ⟨⟨_, rest⟩, -, hbehind⟩ := Option.bind_eq_some_iff.1 hread
  obtain ⟨⟨first, more⟩, hfirst, hends⟩ := Option.bind_eq_some_iff.1 hbehind
  dsimp only at hends
  have hname : n = first :: (Text.run isNamePart more).1 := by
    split at hends
    · exact (Prod.mk.inj (Option.some.inj hends)).1.symm
    · obtain ⟨-, -, hpair⟩ := Option.bind_eq_some_iff.1 hends
      exact (Prod.mk.inj (Option.some.inj hpair)).1.symm
  have hstart : isNamePart first = true := by
    have hc := (Text.one?_eq_some_iff.1 hfirst).2
    simp only [Bool.or_eq_true, beq_iff_eq] at hc
    rcases hc with ((rfl | rfl) | rfl) | hletter
    · decide
    · decide
    · decide
    · exact isNamePart_of_isAsciiLetter hletter
  rw [hname]
  refine ⟨List.cons_ne_nil _ _, List.forall_mem_cons.2 ⟨hstart, fun c hc => ?_⟩⟩
  exact List.mem_takeWhile_imp hc

end Usage

/-! ## Selectors for an attribute -/

namespace Selector

/-- A name with a backslash in front of every character that needs one. -/
def escape (n : Text) : Text := n.flatMap fun c => if isNameChar c then [c] else ['\\', c]

theorem escape_cons (c : Char) (n : Text) :
    escape (c :: n) = (if isNameChar c then [c] else ['\\', c]) ++ escape n := rfl

theorem length_le_length_escape (n : Text) : n.length ≤ (escape n).length := by
  induction n with
  | nil => exact Nat.le_refl 0
  | cons c n ih =>
    rw [escape_cons, List.length_append, List.length_cons]
    split
    · rw [List.length_singleton]
      omega
    · rw [List.length_cons, List.length_singleton]
      omega

/-- A name is spelled without escapes exactly when it needs none. -/
theorem escape_eq_self_iff {n : Text} : escape n = n ↔ ∀ c ∈ n, isNameChar c = true := by
  induction n with
  | nil => simp [escape]
  | cons c n ih =>
    rw [escape_cons, List.forall_mem_cons]
    by_cases hc : isNameChar c = true
    · rw [if_pos hc, List.singleton_append, List.cons.injEq, ih]
      simp [hc]
    · have hlonger : ['\\', c] ++ escape n ≠ c :: n := by
        intro heq
        have hlength := congrArg List.length heq
        have hle := length_le_length_escape n
        rw [List.length_append, List.length_cons, List.length_singleton,
          List.length_cons] at hlength
        omega
      rw [if_neg hc]
      exact iff_of_false hlonger fun h => hc h.1

theorem mem_escape {n : Text} {d : Char} (h : d ∈ escape n) : d = '\\' ∨ d ∈ n := by
  obtain ⟨c, hc, hd⟩ := List.mem_flatMap.1 h
  split at hd
  · rw [List.mem_singleton.1 hd]
    exact .inr hc
  · simp only [List.mem_cons, List.not_mem_nil, or_false] at hd
    rcases hd with rfl | rfl
    · exact .inl rfl
    · exact .inr hc

/-- A character that may stand in the brackets of an attribute selector without ending the name or
the brackets. -/
def isBracketPart (c : Char) : Bool :=
  !Text.isBlank c && !"~|^$*=[]\x22\x27".toList.contains c

/-- The brackets around such characters are closed by the bracket behind them. -/
theorem spanBrackets_concat {e : Text} (he : ∀ c ∈ e, isBracketPart c = true) :
    spanBrackets (e ++ [']']) = (e ++ [']'], []) := by
  induction e with
  | nil => rfl
  | cons c e ih =>
    obtain ⟨hc, he⟩ := List.forall_mem_cons.1 he
    have hquote : Text.isQuote c = false := by
      rw [Text.isQuote, Bool.or_eq_false_iff, beq_eq_false_iff_ne, beq_eq_false_iff_ne]
      exact ⟨ne_of_class hc (by decide), ne_of_class hc (by decide)⟩
    have hskip := spanGroup_skip hquote (ne_of_class hc (by decide : isBracketPart '[' = false))
      (ne_of_class hc (by decide : isBracketPart ']' = false)) 0 (e ++ [']'])
    rw [List.cons_append, spanBrackets, hskip, ← spanBrackets, ih he]
    rfl

theorem simples_of_brackets {e : Text} (he : ∀ c ∈ e, isBracketPart c = true) :
    simples ('[' :: e ++ [']']) = [.attr ('[' :: e ++ [']'])] := by
  rw [List.cons_append, simples_attr, spanBrackets_concat he, simples_nil]

/-- The name is taken as it is written. -/
theorem attributeName_brackets {e : Text} (hne : e ≠ []) (he : ∀ c ∈ e, isBracketPart c = true) :
    attributeName ('[' :: e ++ [']']) = Text.lower e := by
  have hsolid : ∀ c ∈ e, Text.isBlank c = false := by
    intro c hc
    have hpart := he c hc
    rw [isBracketPart, Bool.and_eq_true, Bool.not_eq_true'] at hpart
    exact hpart.1
  have htrim : Text.trim ('[' :: e ++ [']']) = '[' :: e ++ [']'] := by
    rw [List.cons_append, Text.trim_cons (by decide), ← List.cons_append,
      Text.trimEnd_concat _ (by decide)]
  have hlast : ('[' :: e ++ [']']).getLast? = some ']' := List.getLast?_concat
  have hall : e.takeWhile (fun c => !"~|^$*=] \t\n".toList.contains c) = e := by
    rw [List.takeWhile_eq_self_iff]
    intro c hc
    have hout : "~|^$*=] \t\n".toList.any isBracketPart = false := by decide
    rw [Bool.not_eq_true', ← Bool.not_eq_true, List.contains_iff_mem]
    exact fun hmem => List.any_eq_false.1 hout c hmem (he c hc)
  rw [attributeName, htrim, if_pos hlast, List.cons_append, List.tail_cons, List.dropLast_concat,
    (Text.Spaced.of_forall hne hsolid).trim_eq, hall]

end Selector

/-! ## Usages -/

namespace Usage

/-- A selector for an attribute is used exactly if it is recorded, or if the attribute is by the
name as the selector writes it. -/
theorem uses_brackets_iff {u : Usage} {e : Text} (hne : e ≠ [])
    (he : ∀ c ∈ e, Selector.isBracketPart c = true) (hlower : Text.lower e = e) :
    u.uses ('[' :: e ++ [']']) = true ↔
      '[' :: e ++ [']'] ∈ u.raw ∨ '[' :: e ++ [']'] ∈ u.attributes := by
  have hname := Selector.attributeName_brackets hne he
  rw [hlower] at hname
  rw [uses, Selector.simples_of_brackets he, List.any_cons, List.any_nil, Bool.or_false, has, hname,
    Bool.or_self, Bool.or_eq_true, Bool.or_eq_true, TokenSet.contains_iff, TokenSet.contains_iff]
  simp [Selector.isMatchable, SimpleSelector.isMatchable]

theorem IsAttributeName.isBracketPart {n : Text} (h : IsAttributeName n) :
    ∀ c ∈ Selector.escape n, Selector.isBracketPart c = true := by
  have hout : "~|^$*=[]\x22\x27".toList.any isNamePart = false := by decide
  intro c hc
  rcases Selector.mem_escape hc with rfl | hc
  · decide
  · have hpart := h.forall_mem.2 c hc
    rw [Selector.isBracketPart, isBlank_of_isNamePart hpart, Bool.not_false, Bool.true_and,
      Bool.not_eq_true', ← Bool.not_eq_true, List.contains_iff_mem]
    exact fun hmem => List.any_eq_false.1 hout c hmem hpart

/-- A backslash has no other lower case. -/
theorem IsAttributeName.lower_escape {n : Text} (h : IsAttributeName n) :
    Text.lower (Selector.escape n) = Selector.escape n := by
  have hlowered := Text.lower_eq_self_iff.1 h.lowered
  refine Text.lower_eq_self_iff.2 fun c hc => ?_
  rcases Selector.mem_escape hc with rfl | hc
  · decide
  · exact hlowered c hc

theorem IsAttributeName.escape_ne_nil {n : Text} (h : IsAttributeName n) :
    Selector.escape n ≠ [] := by
  have hle := Selector.length_le_length_escape n
  have hpos := List.length_pos_iff.2 h.forall_mem.1
  exact List.length_pos_iff.1 (by omega)

/-- **An attribute is found by a name that needs no escape.**  The selector for an attribute that
is used, with the name spelled as selectors spell it, counts as used in just three cases: the name
needs no escape, or the selector with its escapes is listed, or it is itself among the
attributes. -/
theorem uses_escape_iff {n : Text} (hn : IsAttributeName n) {u : Usage}
    (hu : '[' :: n ++ [']'] ∈ u.attributes) :
    u.uses ('[' :: Selector.escape n ++ [']']) = true ↔
      (∀ c ∈ n, Selector.isNameChar c = true) ∨ '[' :: Selector.escape n ++ [']'] ∈ u.raw ∨
        '[' :: Selector.escape n ++ [']'] ∈ u.attributes := by
  rw [uses_brackets_iff hn.escape_ne_nil hn.isBracketPart hn.lower_escape]
  constructor
  · exact .inr
  · rintro (hplain | hlisted)
    · rw [Selector.escape_eq_self_iff.2 hplain]
      exact .inr hu
    · exact hlisted

/-- A data attribute that is in use is found. -/
theorem uses_escape_iff_data :
    let u : Usage := { attributes := .ofList ["[data-é]".toList] }
    IsAttributeName "data-é".toList ∧ "[data-é]".toList ∈ u.attributes ∧
      u.uses "[data-é]".toList = true := by
  intro u
  have hn : IsAttributeName "data-é".toList :=
    ⟨⟨none, " data-é=\x22\x22".toList, "=\x22\x22".toList, by decide +kernel⟩, by decide +kernel⟩
  have hu : '[' :: "data-é".toList ++ [']'] ∈ u.attributes :=
    TokenSet.contains_iff.1 (by decide +kernel)
  exact ⟨hn, hu, (uses_escape_iff hn hu).2 (.inl (List.all_eq_true.1 (by decide)))⟩

/-- The name of an attribute with a colon in it is read from a tag, but is not found by the selector
for it. -/
theorem not_uses_escape_colon :
    let n := "xlink:href".toList
    let u := ofDocument .generic "<use xlink:href>".toList
    IsAttributeName n ∧ '[' :: n ++ [']'] ∈ u.attributes ∧
      '[' :: Selector.escape n ++ [']'] = "[xlink\\:href]".toList ∧
        u.uses ('[' :: Selector.escape n ++ [']']) = false := by
  intro n u
  have hn : IsAttributeName n :=
    ⟨⟨none, " xlink:href=".toList, "=".toList, by decide +kernel⟩, by decide +kernel⟩
  have hu : u = { attributes := .ofList ["[xlink:href]".toList] } := by decide +kernel
  refine ⟨hn, TokenSet.contains_iff.1 (by rw [hu]; decide +kernel), by decide +kernel, ?_⟩
  rw [← Bool.not_eq_true, uses_brackets_iff hn.escape_ne_nil hn.isBracketPart hn.lower_escape,
    ← TokenSet.contains_iff, ← TokenSet.contains_iff, hu]
  decide +kernel

end Usage

end CssTrim
