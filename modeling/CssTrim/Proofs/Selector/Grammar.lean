import CssTrim.Proofs.Selector.Scan
import CssTrim.Proofs.Text.Words

/-!
# Selectors without escapes

A grammar of the selectors that need no escapes, nested to any depth, and the
text of each of them.  There are three groups.

* The grammar.  A selector group has members, a complex selector has compound
  selectors, a compound selector has parts, and a part may have a group for its
  argument.
* Texts, and the simple selectors that each form stands for.
* Shapes.  The texts are closed, so that the scanners pass them, and their words
  are one space apart, so that squeezing does not change them.
-/

namespace CssTrim.Selector

/-! ## The grammar -/

/-- A name that is written without escapes. -/
structure Name where
  text : Text
  ne_nil : text ≠ []
  isName : ∀ c ∈ text, isNameChar c = true ∧ Text.isBlank c = false

/-- A value that is written as it is between the quotes of an attribute selector. -/
structure Quotable where
  text : Text
  isQuotable : ∀ c ∈ text, Text.isQuote c = false ∧ c ≠ '\\' ∧ Text.isBlank c = false

/-- What stands between two compound selectors. -/
inductive Combinator where
  | descendant
  | child
  | next
  | subsequent

mutual

/-- A part of a compound selector. -/
inductive Part where
  | className (name : Name)
  | id (name : Name)
  | attr (name : Name)
  | attrValue (name : Name) (value : Quotable)
  | pseudoClass (name : Name)
  | pseudoElement (name : Name)
  /-- A functional pseudo-class whose argument is a selector group. -/
  | functional (name : Name) (hname : name.text ∈ groupPseudos) (argument : Group)

/-- A compound selector.  Only its first part may be a tag or an asterisk. -/
inductive Compound where
  | universal
  | tag (name : Name)
  | part (first : Part)
  | more (front : Compound) (last : Part)

/-- A complex selector. -/
inductive Complex where
  | single (compound : Compound)
  | combined (compound : Compound) (combinator : Combinator) (rest : Complex)

/-- A selector group. -/
inductive Group where
  | single (member : Complex)
  | cons (member : Complex) (rest : Group)

end

/-- The compound selectors of a complex selector. -/
def Complex.compoundSelectors : Complex → List Compound
  | single c => [c]
  | combined c _ rest => c :: rest.compoundSelectors

/-- The members of a selector group. -/
def Group.members : Group → List Complex
  | single s => [s]
  | cons s rest => s :: rest.members

/-! ## Texts -/

/-- A combinator as it is written, with its blanks. -/
def Combinator.text : Combinator → Text
  | descendant => [' ']
  | child => [' ', '>', ' ']
  | next => [' ', '+', ' ']
  | subsequent => [' ', '~', ' ']

mutual

/-- A part as it is written.  The members of an argument have commas between them. -/
def Part.text : Part → Text
  | .className n => '.' :: n.text
  | .id n => '#' :: n.text
  | .attr n => '[' :: n.text ++ [']']
  | .attrValue n v => '[' :: (n.text ++ '=' :: ('\x22' :: v.text ++ ['\x22'])) ++ [']']
  | .pseudoClass n => ':' :: n.text
  | .pseudoElement n => ':' :: ':' :: n.text
  | .functional n _ g => ':' :: n.text ++ ('(' :: g.text ++ [')'])

def Compound.text : Compound → Text
  | .universal => ['*']
  | .tag n => n.text
  | .part p => p.text
  | .more c p => c.text ++ p.text

def Complex.text : Complex → Text
  | .single c => c.text
  | .combined c k rest => c.text ++ (k.text ++ rest.text)

def Group.text : Group → Text
  | .single s => s.text
  | .cons s rest => s.text ++ (", ".toList ++ rest.text)

end

mutual

/-- The simple selectors that a part stands for.  Those of an argument follow the pseudo-class. -/
def Part.simpleSelectors : Part → List SimpleSelector
  | .className n => [.className n.text]
  | .id n => [.id n.text]
  | .attr n => [.attr (Part.attr n).text]
  | .attrValue n v => [.attr (Part.attrValue n v).text]
  | .pseudoClass n => [.pseudo (Part.pseudoClass n).text]
  | .pseudoElement n => [.pseudo (Part.pseudoElement n).text]
  | .functional n h g => .pseudo (Part.functional n h g).text :: g.simpleSelectors

def Compound.simpleSelectors : Compound → List SimpleSelector
  | .universal => []
  | .tag n => [.tag (Text.lower n.text)]
  | .part p => p.simpleSelectors
  | .more c p => c.simpleSelectors ++ p.simpleSelectors

def Complex.simpleSelectors : Complex → List SimpleSelector
  | .single c => c.simpleSelectors
  | .combined c _ rest => c.simpleSelectors ++ rest.simpleSelectors

def Group.simpleSelectors : Group → List SimpleSelector
  | .single s => s.simpleSelectors
  | .cons s rest => s.simpleSelectors ++ rest.simpleSelectors

end

/-- The text of a group is that of its members with commas between them. -/
theorem Group.text_eq : ∀ g : Group,
    g.text = Text.joinWith ", ".toList (g.members.map Complex.text)
  | .single s => by
    rw [Group.text, Group.members, List.map_singleton, Text.joinWith_singleton]
  | .cons s rest => by
    have ih := rest.text_eq
    obtain ⟨first, others, hmembers⟩ : ∃ first others, rest.members = first :: others := by
      cases rest with
      | single t => exact ⟨t, [], rfl⟩
      | cons t more => exact ⟨t, more.members, rfl⟩
    rw [hmembers] at ih
    rw [Group.text, Group.members, hmembers, List.map_cons, List.map_cons,
      Text.joinWith_cons_cons, ih, List.map_cons]

/-! ## Shapes -/

theorem contains_of_isNameChar {signs : Text} (hsigns : signs.any isNameChar = false) {c : Char}
    (h : isNameChar c = true) : signs.contains c = false := by
  rw [← Bool.not_eq_true, List.contains_iff_mem]
  intro hc
  exact List.any_eq_false.1 hsigns c hc h

theorem isPlain_of_isNameChar {c : Char} (h : isNameChar c = true) : isPlain c = true := by
  rw [isPlain, contains_of_isNameChar (by decide) h]
  rfl

/-- What a compound selector may hold outside of brackets. -/
def inCompound (c : Char) : Bool := !Text.isBlank c && !">+~,\x22".toList.contains c

/-- What a complex selector may hold outside of brackets. -/
def inComplex (c : Char) : Bool := c != ','

theorem inComplex_of_inCompound {c : Char} (h : inCompound c = true) : inComplex c = true := by
  rw [inComplex, bne_iff_ne]
  exact ne_of_class h (by decide)

/-- A compound selector holds no combinator and no quote outside of brackets. -/
theorem isCombinator_of_inCompound {c : Char} (h : inCompound c = true) :
    isCombinator c = false ∧ c ≠ '\x22' := by
  have hblank : Text.isBlank c = false := by
    rw [inCompound, Bool.and_eq_true, Bool.not_eq_true'] at h
    exact h.1
  have hchild : c ≠ '>' := ne_of_class h (by decide)
  have hnext : c ≠ '+' := ne_of_class h (by decide)
  have hsubsequent : c ≠ '~' := ne_of_class h (by decide)
  refine ⟨?_, ne_of_class h (by decide)⟩
  rw [isCombinator, hblank, beq_false_of_ne hchild, beq_false_of_ne hnext,
    beq_false_of_ne hsubsequent]
  rfl

namespace Name

theorem closed (n : Name) : Closed inCompound n.text := by
  refine .of_all (List.all_eq_true.2 fun c hc => ?_)
  obtain ⟨hname, hblank⟩ := n.isName c hc
  rw [isPlain_of_isNameChar hname, inCompound, hblank, contains_of_isNameChar (by decide) hname]
  rfl

theorem closed_brackets (n : Name) : Closed (fun _ => true) n.text :=
  n.closed.mono fun _ _ => rfl

theorem spaced (n : Name) : Text.Spaced n.text :=
  .of_forall n.ne_nil fun c hc => (n.isName c hc).2

end Name

/-- What an attribute selector holds behind its name. -/
theorem Quotable.closed (v : Quotable) :
    Closed (fun _ => true) ('=' :: ('\x22' :: v.text ++ ['\x22'])) := by
  refine .cons (by decide) rfl (.quoted rfl fun c hc => ?_)
  obtain ⟨hquote, hbackslash, -⟩ := v.isQuotable c hc
  have hclosing : Text.isQuote '\x22' = true := by decide
  exact ⟨(ne_of_class hclosing hquote).symm, hbackslash⟩

theorem Quotable.spaced (v : Quotable) :
    Text.Spaced ('=' :: ('\x22' :: v.text ++ ['\x22'])) := by
  have hquote : Text.isBlank '\x22' = false := by decide
  refine .of_forall (List.cons_ne_nil _ _) fun c hc => ?_
  simp only [List.cons_append, List.mem_cons, List.mem_append, List.not_mem_nil, or_false] at hc
  rcases hc with rfl | rfl | hc | rfl
  · decide
  · exact hquote
  · exact (v.isQuotable c hc).2.2
  · exact hquote

theorem Combinator.closed (k : Combinator) : Closed inComplex k.text := by
  cases k with
  | descendant | child | next | subsequent => exact .of_all (by decide)

mutual

/-- The text of a part is closed.  Only what is in its brackets may hold commas and blanks. -/
theorem Part.closed : ∀ p : Part, Closed inCompound p.text
  | .className n => .cons (by decide) (by decide) n.closed
  | .id n => .cons (by decide) (by decide) n.closed
  | .attr n => .brackets _ n.closed_brackets
  | .attrValue n v => .brackets _ (n.closed_brackets.append v.closed)
  | .pseudoClass n => .cons (by decide) (by decide) n.closed
  | .pseudoElement n => .cons (by decide) (by decide) (.cons (by decide) (by decide) n.closed)
  | .functional n _ g =>
    .append (.cons (by decide) (by decide) n.closed) (.parens _ g.closed)

theorem Compound.closed : ∀ c : Compound, Closed inCompound c.text
  | .universal => .plain (by decide) (by decide)
  | .tag n => n.closed
  | .part p => p.closed
  | .more c p => .append c.closed p.closed

theorem Complex.closed : ∀ s : Complex, Closed inComplex s.text
  | .single c => c.closed.mono fun _ => inComplex_of_inCompound
  | .combined c k rest =>
    .append (c.closed.mono fun _ => inComplex_of_inCompound) (.append k.closed rest.closed)

theorem Group.closed : ∀ g : Group, Closed (fun _ => true) g.text
  | .single s => s.closed.mono fun _ _ => rfl
  | .cons s rest =>
    .append (s.closed.mono fun _ _ => rfl) (.append (.of_all (by decide)) rest.closed)

end

theorem Combinator.spaced (k : Combinator) {s t : Text} (hs : Text.Spaced s)
    (ht : Text.Spaced t) : Text.Spaced (s ++ (k.text ++ t)) := by
  cases k with
  | descendant => exact hs.append_space ht
  | child | next | subsequent => exact hs.append_space (.gap (by decide) ht)

mutual

/-- The text of a part is spaced.  Its only blanks are those of an argument. -/
theorem Part.spaced : ∀ p : Part, Text.Spaced p.text
  | .className n => .solid (by decide) n.spaced
  | .id n => .solid (by decide) n.spaced
  | .attr n => .append (.solid (by decide) n.spaced) (.last (by decide))
  | .attrValue n v =>
    .append (.solid (by decide) (n.spaced.append v.spaced)) (.last (by decide))
  | .pseudoClass n => .solid (by decide) n.spaced
  | .pseudoElement n => .solid (by decide) (.solid (by decide) n.spaced)
  | .functional n _ g =>
    .append (.solid (by decide) n.spaced)
      (.append (.solid (by decide) g.spaced) (.last (by decide)))

theorem Compound.spaced : ∀ c : Compound, Text.Spaced c.text
  | .universal => .last (by decide)
  | .tag n => n.spaced
  | .part p => p.spaced
  | .more c p => .append c.spaced p.spaced

theorem Complex.spaced : ∀ s : Complex, Text.Spaced s.text
  | .single c => c.spaced
  | .combined c k rest => k.spaced c.spaced rest.spaced

theorem Group.spaced : ∀ g : Group, Text.Spaced g.text
  | .single s => s.spaced
  | .cons s rest => .append s.spaced (.gap (by decide) rest.spaced)

end

end CssTrim.Selector
