import CssTrim.Block

/-!
# Merging media blocks

Media blocks with the same query are merged into the first of them.  Queries are
compared as normalized texts: case and layout do not count, and neither does
`only` or `screen and` in front.

`combine` goes through a list once.  A media block takes in the later members of
its group, which are dropped from the rest, so groups come out in the order of
their first members and all other blocks stay where they are.
-/

namespace CssTrim

namespace Media

/-! ## Queries -/

/-- Whether a blank behind this character is layout. -/
def opens (c : Char) : Bool := c == ':' || c == '('

/-- Whether a blank in front of this character is layout. -/
def closes (c : Char) : Bool := c == ':' || c == ')'

/-- Drops the blanks beside colons and inside parentheses, in a text where blanks stand alone. -/
def tighten (before : Option Char) : Text → Text
  | [] => []
  | c :: rest =>
    if Text.isBlank c && (before.any opens || rest.head?.any closes) then tighten before rest
    else c :: tighten (some c) rest

/-- What follows a word at the front and the blanks behind it. -/
def afterWord? (word t : Text) : Option Text :=
  match Text.after? word t with
  | some (c :: rest) => if Text.isBlank c then some (Text.trimStart rest) else none
  | _ => none

/-- What follows `screen and`, if anything does. -/
def afterScreen? (t : Text) : Option Text :=
  match (afterWord? "screen".toList t).bind (afterWord? "and".toList) with
  | some rest => if Text.isBlankText rest then none else some rest
  | none => none

/-- The form in which queries are compared. -/
def normalize (query : Text) : Text :=
  let tight := tighten none (Text.squeeze (Text.lower query))
  let plain := (afterWord? "only".toList tight).getD tight
  Text.trim ((afterScreen? plain).getD plain)

/-- The query of a block that may be merged with others. -/
def query? (b : Block) : Option Text :=
  if b.kind = .media ∧ !b.malformed ∧ !b.passthrough then some (normalize b.condition) else none

/-! ## Groups -/

/-- The blocks with the same query. -/
structure Group where
  query : Text
  first : Block
  others : List Block

/-- The blocks of a group. -/
def Group.members (g : Group) : List Block := g.first :: g.others

/-- The block that stands for a group: the only one, or the first with the bodies of all. -/
def Group.merged (g : Group) : Block :=
  if g.others.isEmpty then g.first
  else
    let inners := (g.members.map fun b => Text.trim b.inner).filter (!·.isEmpty)
    g.first.withBody ("\x7b\n".toList ++ Text.joinWith ['\n', '\n'] inners ++ "\n\x7d".toList)

/-- The blocks with this query. -/
def membersOf (query : Text) (bs : List Block) : List Block :=
  bs.filter fun b => query? b == some query

/-- The blocks without this query. -/
def withoutQuery (query : Text) (bs : List Block) : List Block :=
  bs.filter fun b => query? b != some query

theorem length_withoutQuery_le (query : Text) (bs : List Block) :
    (withoutQuery query bs).length ≤ bs.length := List.length_filter_le _ _

/-- The groups of a list, in the order of their first members. -/
def groups (bs : List Block) : List Group :=
  match bs with
  | [] => []
  | b :: rest =>
    match query? b with
    | none => groups rest
    | some q => ⟨q, b, membersOf q rest⟩ :: groups (withoutQuery q rest)
termination_by bs.length
decreasing_by
  · simp
  · exact Nat.lt_succ_of_le (length_withoutQuery_le q rest)

/-- The list with every group merged into its first member. -/
def combine (bs : List Block) : List Block :=
  match bs with
  | [] => []
  | b :: rest =>
    match query? b with
    | none => b :: combine rest
    | some q => (Group.mk q b (membersOf q rest)).merged :: combine (withoutQuery q rest)
termination_by bs.length
decreasing_by
  · simp
  · exact Nat.lt_succ_of_le (length_withoutQuery_le q rest)

/-- The number of blocks that merging saves. -/
def saved (bs : List Block) : Nat := ((groups bs).flatMap (·.others)).length

end Media

end CssTrim
