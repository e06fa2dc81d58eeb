import CssTrim.Selector.Bracket

/-!
# Compound selectors

A complex selector is a sequence of compound selectors with combinators between
them: blanks, `>`, `+` and `~`.  A combinator inside brackets or parentheses
belongs to a compound, and so does an escaped one.
-/

namespace CssTrim.Selector

/-- A character that stands between two compound selectors. -/
def isCombinator (c : Char) : Bool := Text.isBlank c || c == '>' || c == '+' || c == '~'

/-- Cuts a selector at its combinators.  There may be empty pieces. -/
def splitCombinators (t : Text) : List Text :=
  match t with
  | [] => [[]]
  | '\\' :: c :: rest => (splitCombinators rest).modifyHead fun t => '\\' :: c :: t
  | c :: rest =>
    if c = '[' then
      (splitCombinators (spanBrackets rest).2).modifyHead fun t => c :: (spanBrackets rest).1 ++ t
    else if c = '(' then
      (splitCombinators (spanParens rest).2).modifyHead fun t => c :: (spanParens rest).1 ++ t
    else if isCombinator c then [] :: splitCombinators rest
    else (splitCombinators rest).modifyHead (c :: ·)
termination_by t.length
decreasing_by
  · simp only [List.length_cons]
    omega
  · have := length_spanBrackets rest
    simp only [List.length_cons]
    omega
  · have := length_spanParens rest
    simp only [List.length_cons]
    omega
  · simp
  · simp

/-- The compound selectors of a complex selector. -/
def compounds (t : Text) : List Text := (splitCombinators t).filter (!·.isEmpty)

end CssTrim.Selector
