import CssTrim.Selector.Name
import CssTrim.Selector.Bracket
import CssTrim.Selector.Group
import CssTrim.Selector.Compound

/-!
# Simple selectors

A selector is read into the simple selectors it is made of, in order: the
selector `a.btn#go[href]:hover` is a tag, a class, an id, an attribute and a
pseudo-class.  Combinators, the universal selector and namespace bars are left
out.

The argument of a functional pseudo-class such as `:not(.a, .b)` is a selector
group of its own.  Its simple selectors follow the pseudo-class.
-/

namespace CssTrim

/-- A simple selector. -/
inductive SimpleSelector where
  /-- A tag, in lower case. -/
  | tag (name : Text)
  | className (name : Text)
  | id (name : Text)
  /-- An attribute selector, as written with its brackets. -/
  | attr (source : Text)
  /-- A pseudo-class or pseudo-element, as written with its argument. -/
  | pseudo (source : Text)
  deriving DecidableEq

namespace SimpleSelector

/-- The text of a simple selector. -/
def value : SimpleSelector → Text
  | tag t | className t | id t | attr t | pseudo t => t

/-- The name of the kind of a simple selector. -/
def kindName : SimpleSelector → Text
  | tag _ => "tag".toList
  | className _ => "class".toList
  | id _ => "id".toList
  | attr _ => "attribute".toList
  | pseudo _ => "pseudo".toList

/-- Whether a document can be searched for the simple selector. -/
def isMatchable : SimpleSelector → Bool
  | pseudo _ => false
  | _ => true

end SimpleSelector

namespace Selector

/-- The functional pseudo-classes whose argument is a selector group. -/
def groupPseudos : List Text :=
  ["is".toList, "where".toList, "not".toList, "has".toList, "matches".toList,
    "-webkit-any".toList, "-moz-any".toList]

/-- The argument of a functional pseudo-class, given with its opening parenthesis taken off. -/
def argument (t : Text) : Text := if t.getLast? = some ')' then t.dropLast else t

theorem length_argument_le (t : Text) : (argument t).length ≤ t.length := by
  unfold argument
  split <;> simp

/-- The colons at the start of a pseudo-class or pseudo-element, of which one has been read. -/
def spanColon : Text → Text × Text
  | ':' :: rest => ([':'], rest)
  | t => ([], t)

theorem length_spanColon_le (t : Text) : (spanColon t).2.length ≤ t.length := by
  fun_cases spanColon t <;> simp

/-- The simple selectors `tail` behind one with this name, if the name is not empty. -/
def consNamed (make : Text → SimpleSelector) (name : Text) (tail : List SimpleSelector) :
    List SimpleSelector :=
  if name.isEmpty then tail else make name :: tail

/-- The simple selectors of a selector. -/
def simples (t : Text) : List SimpleSelector :=
  match t with
  | [] => []
  | c :: rest =>
    if c = '.' then consNamed .className (readName rest).1 (simples (readName rest).2)
    else if c = '#' then consNamed .id (readName rest).1 (simples (readName rest).2)
    else if c = '[' then .attr (c :: (spanBrackets rest).1) :: simples (spanBrackets rest).2
    else if c = ':' then
      let named := readName (spanColon rest).2
      let written := c :: rest.take (rest.length - named.2.length)
      match _hleft : named.2 with
      | '(' :: args =>
        let nested :=
          if groupPseudos.contains (Text.lower named.1) then
            (alternatives (argument (spanParens args).1)).attach.flatMap fun ⟨a, _⟩ => simples a
          else []
        .pseudo (written ++ '(' :: (spanParens args).1) :: nested ++ simples (spanParens args).2
      | left => .pseudo written :: simples left
    else if _hname : (readName (c :: rest)).1 = [] then simples rest
    else .tag (Text.lower (readName (c :: rest)).1) :: simples (readName (c :: rest)).2
termination_by t.length
decreasing_by
  · have := length_readName_le rest
    simp only [List.length_cons]
    omega
  · have := length_readName_le rest
    simp only [List.length_cons]
    omega
  · have := length_spanBrackets rest
    simp only [List.length_cons]
    omega
  · rename_i hmem
    have h₁ := length_alternative_le hmem
    have h₂ := length_argument_le (spanParens args).1
    have h₃ := length_spanParens args
    have h₄ := length_readName_le (spanColon rest).2
    have h₅ := length_spanColon_le rest
    rw [_hleft] at h₄
    simp only [List.length_cons] at h₄ ⊢
    omega
  · have h₃ := length_spanParens args
    have h₄ := length_readName_le (spanColon rest).2
    have h₅ := length_spanColon_le rest
    rw [_hleft] at h₄
    simp only [List.length_cons] at h₄ ⊢
    omega
  · have h₄ := length_readName_le (spanColon rest).2
    have h₅ := length_spanColon_le rest
    rw [_hleft] at h₄
    simp only [List.length_cons]
    omega
  · simp
  · exact length_readName_lt _hname

/-- Whether some simple selector can be searched for in a document. -/
def isMatchable (ss : List SimpleSelector) : Bool := ss.any (·.isMatchable)

/-- The name in an attribute selector, in lower case. -/
def attributeName (source : Text) : Text :=
  let written := Text.trim source
  let inside := if written.getLast? = some ']' then written.tail.dropLast else written.tail
  Text.lower ((Text.trim inside).takeWhile fun c => !"~|^$*=] \t\n".toList.contains c)

end Selector

end CssTrim
