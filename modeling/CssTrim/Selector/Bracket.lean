import CssTrim.Lexeme

/-!
# Bracket groups in selectors

The square brackets of an attribute selector and the parentheses of a functional
pseudo-class.  A group ends at the bracket that balances its first one; a
bracket inside quotes does not count, and a backslash inside quotes takes the
next character with it.
-/

namespace CssTrim.Selector

/-- Cuts behind the bracket that closes a group.  The group is inside `depth` further brackets of
its kind, and inside quotes if `quote` is given. -/
def spanGroup (opening closing : Char) : (depth : Nat) → (quote : Option Char) → Text → Text × Text
  | _, _, [] => ([], [])
  | depth, some q, '\\' :: c :: rest =>
    (spanGroup opening closing depth (some q) rest).map ('\\' :: c :: ·) id
  | depth, some q, c :: rest =>
    (spanGroup opening closing depth (if c = q then none else some q) rest).map (c :: ·) id
  | depth, none, c :: rest =>
    if Text.isQuote c then (spanGroup opening closing depth (some c) rest).map (c :: ·) id
    else if c = opening then (spanGroup opening closing (depth + 1) none rest).map (c :: ·) id
    else if c = closing then
      match depth with
      | 0 => ([c], rest)
      | outer + 1 => (spanGroup opening closing outer none rest).map (c :: ·) id
    else (spanGroup opening closing depth none rest).map (c :: ·) id

/-- Cuts behind the bracket that balances an opening bracket just read. -/
def spanBrackets : Text → Text × Text := spanGroup '[' ']' 0 none

/-- Cuts behind the parenthesis that balances an opening parenthesis just read. -/
def spanParens : Text → Text × Text := spanGroup '(' ')' 0 none

theorem spanGroup_append (opening closing : Char) (depth : Nat) (quote : Option Char) (t : Text) :
    (spanGroup opening closing depth quote t).1 ++ (spanGroup opening closing depth quote t).2 =
      t := by
  fun_induction spanGroup opening closing depth quote t <;> simp_all

theorem length_spanGroup (opening closing : Char) (depth : Nat) (quote : Option Char) (t : Text) :
    (spanGroup opening closing depth quote t).1.length +
      (spanGroup opening closing depth quote t).2.length = t.length := by
  rw [← List.length_append, spanGroup_append]

theorem length_spanBrackets (t : Text) :
    (spanBrackets t).1.length + (spanBrackets t).2.length = t.length :=
  length_spanGroup '[' ']' 0 none t

theorem length_spanParens (t : Text) :
    (spanParens t).1.length + (spanParens t).2.length = t.length :=
  length_spanGroup '(' ')' 0 none t

end CssTrim.Selector
