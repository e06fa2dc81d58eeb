import CssTrim.Proofs.Text.Recognizer
import CssTrim.Usage.Markup

/-!
# String literals, character by character

The search for string literals looks far ahead: a literal is one if its closing
quote comes somewhere.  Without backslashes the same literals are found in one
pass that looks at each character once, and only has to know in which literal it
stands.  There are three groups.

* The pass.  `passLiterals` starts outside of literals or inside of one, and ends
  so; `literals_eq_pass` is about all of a text, and the rest about its parts.
* Holes, which are replaced one after the other.
* `Braced` texts.  An expression in braces does not end in them.
-/

namespace CssTrim.Usage

open Text

/-! ## The pass -/

/-- The literals that end in a text, and where the pass stands behind it: outside of literals, or in
one, with its quote and what it holds so far. -/
def passLiterals : Option (Char × Text) → Text → List Text × Option (Char × Text)
  | stand, [] => ([], stand)
  | none, c :: t =>
    if allQuotes.contains c then passLiterals (some (c, [])) t else passLiterals none t
  | some (q, front), c :: t =>
    if c = q then (passLiterals none t).map (front :: ·) id
    else passLiterals (some (q, front ++ [c])) t

theorem passLiterals_append (stand : Option (Char × Text)) (s t : Text) :
    passLiterals stand (s ++ t) =
      (passLiterals (passLiterals stand s).2 t).map ((passLiterals stand s).1 ++ ·) id := by
  induction s generalizing stand with
  | nil => rw [List.nil_append, passLiterals]; rfl
  | cons c s ih =>
    rw [List.cons_append]
    cases stand with
    | none =>
      rw [passLiterals, passLiterals]
      split
      · exact ih _
      · exact ih _
    | some literal =>
      obtain ⟨q, front⟩ := literal
      rw [passLiterals, passLiterals]
      split
      · rw [ih none]
        rfl
      · exact ih _

/-- Inside of a literal everything but its quote is part of it. -/
theorem passLiterals_inside {q : Char} {t : Text} (ht : q ∉ t) (front : Text) :
    passLiterals (some (q, front)) t = ([], some (q, front ++ t)) := by
  induction t generalizing front with
  | nil => rw [passLiterals, List.append_nil]
  | cons c t ih =>
    rw [List.mem_cons, not_or] at ht
    rw [passLiterals, if_neg (Ne.symm ht.1), ih ht.2, List.append_assoc, List.singleton_append]

/-- Outside of literals nothing but quotes counts. -/
theorem passLiterals_outside {t : Text} (ht : ∀ c ∈ t, c ∉ allQuotes) :
    passLiterals none t = ([], none) := by
  induction t with
  | nil => rw [passLiterals]
  | cons c t ih =>
    obtain ⟨hc, ht⟩ := List.forall_mem_cons.1 ht
    rw [passLiterals, if_neg (by simpa using hc), ih ht]

theorem passLiterals_open {q : Char} (hq : q ∈ allQuotes) (t : Text) :
    passLiterals none (q :: t) = passLiterals (some (q, [])) t := by
  rw [passLiterals, if_pos (List.contains_iff_mem.2 hq)]

theorem passLiterals_close (q : Char) (front t : Text) :
    passLiterals (some (q, front)) (q :: t) = (passLiterals none t).map (front :: ·) id := by
  rw [passLiterals, if_pos rfl]

/-- A literal without backslashes is closed by the first quote of its kind. -/
theorem closeLiteral?_append {q : Char} {front : Text} (hquote : q ∉ front)
    (hbackslash : '\\' ∉ front) (rest : Text) :
    closeLiteral? q (front ++ q :: rest) = some (front, rest) := by
  induction front with
  | nil => rw [List.nil_append, closeLiteral?, if_pos rfl]
  | cons c front ih =>
    rw [List.mem_cons, not_or] at hquote hbackslash
    rw [List.cons_append, closeLiteral?, if_neg (Ne.symm hquote.1), if_neg (Ne.symm hbackslash.1),
      ih hquote.2 hbackslash.2]
    rfl

theorem looksAhead_literal : literal.LooksAhead := fun _ _ => rfl

/-- The search goes on behind a sign that is no quote. -/
theorem literals_cons {c : Char} (hc : c ∉ allQuotes) (t : Text) :
    literals (c :: t) = literals t := by
  have hread : literal none (c :: t) = none := by
    rw [literal, one?, if_neg (by simpa using hc)]
    rfl
  exact looksAhead_literal.findAll_of_none hread

/-- The search goes on behind the closing quote of a literal. -/
theorem literals_closed {q : Char} (hq : q ∈ allQuotes) {front : Text} (hquote : q ∉ front)
    (hbackslash : '\\' ∉ front) (t : Text) :
    literals (q :: (front ++ q :: t)) = front :: literals t := by
  have hread : literal none (q :: ((front ++ [q]) ++ t)) = some (front, t) := by
    rw [literal, one?, if_pos (List.contains_iff_mem.2 hq), List.append_assoc,
      List.singleton_append]
    exact closeLiteral?_append hquote hbackslash t
  have hfound := looksAhead_literal.findAll_of_some hread
  rw [List.append_assoc, List.singleton_append] at hfound
  exact hfound

/-- What is still to be searched: a text, with the literal in front of it that the pass stands
in. -/
def unread : Option (Char × Text) → Text → Text
  | none, t => t
  | some (q, front), t => q :: (front ++ t)

/-- Whether a literal that the pass stands in is not closed so far. -/
def IsOpen : Option (Char × Text) → Prop
  | none => True
  | some (q, front) => q ∈ allQuotes ∧ q ∉ front ∧ '\\' ∉ front

/-- The induction is on the text; the literal that the pass stands in grows with it. -/
theorem literals_unread (stand : Option (Char × Text)) (hopen : IsOpen stand) {t : Text}
    (hbackslash : '\\' ∉ t) (hend : (passLiterals stand t).2 = none) :
    literals (unread stand t) = (passLiterals stand t).1 := by
  induction t generalizing stand with
  | nil =>
    have hnone : stand = none := by
      rw [passLiterals] at hend
      exact hend
    rw [hnone, passLiterals]
    rfl
  | cons c t ih =>
    rw [List.mem_cons, not_or] at hbackslash
    cases stand with
    | none =>
      rw [passLiterals] at hend ⊢
      split at hend
      · rename_i hc
        rw [if_pos hc]
        have hopen : IsOpen (some (c, [])) :=
          ⟨List.contains_iff_mem.1 hc, List.not_mem_nil, List.not_mem_nil⟩
        exact ih _ hopen hbackslash.2 hend
      · rename_i hc
        rw [if_neg hc, unread, literals_cons (by simpa using hc)]
        exact ih none trivial hbackslash.2 hend
    | some state =>
      obtain ⟨q, front⟩ := state
      obtain ⟨hq, hquote, hfront⟩ := hopen
      rw [passLiterals] at hend ⊢
      split at hend
      · rename_i hc
        subst hc
        rw [if_pos rfl, unread, literals_closed hq hquote hfront]
        exact congrArg (front :: ·) (ih none trivial hbackslash.2 hend)
      · rename_i hc
        have hopen : IsOpen (some (q, front ++ [c])) := by
          refine ⟨hq, ?_, ?_⟩
          · simpa using ⟨hquote, Ne.symm hc⟩
          · simpa using ⟨hfront, hbackslash.1⟩
        have hrest := ih _ hopen hbackslash.2 hend
        rw [unread, List.append_assoc, List.singleton_append] at hrest
        rw [if_neg hc]
        exact hrest

/-- **The search is a pass.**  A text without backslashes that no literal is left open in has the
literals that the pass finds. -/
theorem literals_eq_pass {t : Text} (hbackslash : '\\' ∉ t)
    (hend : (passLiterals none t).2 = none) :
    literals t = (passLiterals none t).1 :=
  literals_unread none trivial hbackslash hend

/-! ## Holes -/

theorem looksAhead_hole : hole.LooksAhead := fun _ _ => rfl

theorem replaceAll_hole_append {s : Text} (hs : '$' ∉ s) (image t : Text) :
    hole.replaceAll image (s ++ t) = s ++ hole.replaceAll image t := by
  induction s with
  | nil => rfl
  | cons c s ih =>
    rw [List.mem_cons, not_or] at hs
    have hread : hole none (c :: (s ++ t)) = none := by
      have hnone : after? ['$', '\x7b'] (c :: (s ++ t)) = none := by
        rw [Option.eq_none_iff_forall_ne_some]
        intro rest hrest
        exact hs.1 (List.cons.inj (after?_eq_some_iff.1 hrest)).1.symm
      rw [hole, hnone]
      rfl
    rw [List.cons_append, looksAhead_hole.replaceAll_of_none hread, ih hs.2, List.cons_append]

theorem replaceAll_hole_cons {inside : Text} (hinside : '\x7d' ∉ inside) (image t : Text) :
    hole.replaceAll image ('$' :: '\x7b' :: (inside ++ '\x7d' :: t)) =
      image ++ hole.replaceAll image t := by
  have hupTo : upTo? (· == '\x7d') (inside ++ '\x7d' :: t) = some (inside, t) := by
    refine upTo?_eq_some_iff.2 ⟨'\x7d', beq_self_eq_true _, ?_, rfl⟩
    intro d hd
    rw [beq_eq_false_iff_ne]
    rintro rfl
    exact hinside hd
  have hread : hole none ('$' :: (('\x7b' :: (inside ++ ['\x7d'])) ++ t)) = some ((), t) := by
    have hafter : after? ['$', '\x7b'] ('$' :: (('\x7b' :: (inside ++ ['\x7d'])) ++ t)) =
        some (inside ++ '\x7d' :: t) := after?_eq_some_iff.2 (by simp)
    rw [hole, hafter]
    simp only [Option.bind_eq_bind, Option.bind_some, hupTo]
    rfl
  have hreplaced := looksAhead_hole.replaceAll_of_some hread image
  rw [List.cons_append, List.append_assoc, List.singleton_append] at hreplaced
  exact hreplaced

/-! ## Braced texts -/

/-- Whether an expression in braces goes on behind a text. -/
def Braced (s : Text) : Prop :=
  ∀ depth rest, bracedText depth (s ++ rest) = s ++ bracedText depth rest

namespace Braced

theorem nil : Braced [] := fun _ _ => rfl

theorem of_forall {s : Text} (hs : ∀ c ∈ s, c ≠ '\x7b' ∧ c ≠ '\x7d') : Braced s := by
  intro depth rest
  induction s with
  | nil => rfl
  | cons c s ih =>
    obtain ⟨⟨hopen, hclose⟩, hs⟩ := List.forall_mem_cons.1 hs
    have hstep : bracedText depth (c :: (s ++ rest)) = c :: bracedText depth (s ++ rest) :=
      (if_neg hopen).trans (if_neg hclose)
    rw [List.cons_append, hstep, ih hs, List.cons_append]

theorem append {s t : Text} (hs : Braced s) (ht : Braced t) : Braced (s ++ t) := by
  intro depth rest
  rw [List.append_assoc, hs, ht, List.append_assoc]

theorem braces {s : Text} (hs : Braced s) : Braced ('\x7b' :: (s ++ ['\x7d'])) := by
  intro depth rest
  have hopen (t : Text) : bracedText depth ('\x7b' :: t) = '\x7b' :: bracedText (depth + 1) t := rfl
  have hclose : bracedText (depth + 1) ('\x7d' :: rest) = '\x7d' :: bracedText depth rest := rfl
  rw [List.cons_append, hopen, List.append_assoc, hs, List.singleton_append, hclose,
    List.cons_append, List.append_assoc, List.singleton_append]

/-- A text between two signs that are no braces. -/
theorem around {s : Text} (hs : Braced s) {c : Char} (hc : c ≠ '\x7b' ∧ c ≠ '\x7d') :
    Braced (c :: (s ++ [c])) :=
  have hsign : Braced [c] := of_forall (List.forall_mem_singleton.2 hc)
  hsign.append (hs.append hsign)

end Braced

end CssTrim.Usage
