import CssTrim.Text
import CssTrim.Text.Word

/-!
# Blocks

A block is one piece of a stylesheet: a style rule, an at-rule, or a passthrough
fragment such as a comment, an import statement or stray text.  A block knows
where its text came from, so the blocks of a stylesheet can be written back.

* `AtRuleKind` sorts the at-rules by what the program does with them.
* `Block.header`, `Block.inner` and `Block.text` are views of a block.
* `Block.withBody` replaces the body and rebuilds the text.
* `Block.serialize` writes a list of blocks, one below the other.
-/

namespace CssTrim

/-! ## Kinds of at-rules -/

/-- What a block is as an at-rule. -/
inductive AtRuleKind where
  /-- The block is no at-rule. -/
  | none
  | media
  | supports
  | keyframes
  | fontFace
  /-- An at-rule that needs no treatment of its own. -/
  | other
  deriving DecidableEq

namespace AtRuleKind

/-- The name that a report gives a kind. -/
def name : AtRuleKind → Text
  | none => "none".toList
  | media => "media".toList
  | supports => "supports".toList
  | keyframes => "keyframes".toList
  | fontFace => "font-face".toList
  | other => "other".toList

/-- All kinds. -/
def all : List AtRuleKind := [none, media, supports, keyframes, fontFace, other]

/-- The kind that a report calls by this name. -/
def ofName? (t : Text) : Option AtRuleKind := all.find? (·.name == t)

/-- A keyword without its vendor part: `-webkit-keyframes` is `keyframes`.  The keyword stays as
it is when nothing would be left of it. -/
def stripVendor (keyword : Text) : Text :=
  match keyword with
  | '-' :: rest =>
    match rest.dropWhile (· != '-') with
    | _ :: c :: tail => c :: tail
    | _ => keyword
  | _ => keyword

/-- The kind of the at-rule with this keyword.  Case and a vendor part do not matter. -/
def ofKeyword (keyword : Text) : AtRuleKind :=
  if keyword.isEmpty then none
  else
    let plain := stripVendor (Text.lower keyword)
    if plain = "media".toList then media
    else if plain = "supports".toList then supports
    else if plain = "keyframes".toList then keyframes
    else if plain = "font-face".toList then fontFace
    else other

/-- Keywords of the at-rules whose body holds rules and not declarations. -/
def containers : List Text :=
  ["media".toList, "supports".toList, "layer".toList, "container".toList, "document".toList,
    "scope".toList, "starting-style".toList]

end AtRuleKind

/-! ## Blocks -/

/-- One piece of a stylesheet. -/
structure Block where
  /-- The selectors of a style rule, without comments. -/
  selectors : Text := []
  /-- From the opening brace to the closing one; the whole text of a fragment. -/
  body : Text := []
  kind : AtRuleKind := .none
  /-- What stands between the keyword of an at-rule and its body; the selectors of a style rule. -/
  condition : Text := []
  /-- The place of the block among the blocks it was read with. -/
  order : Int := 0
  /-- Whether the block is a fragment that is passed through. -/
  passthrough : Bool := false
  /-- Whether the body was not closed when the input ended. -/
  malformed : Bool := false
  /-- The keyword of an at-rule, as written. -/
  keyword : Text := []
  /-- The text the block was read from, with the blanks in front of it. -/
  source : Text := []
  deriving DecidableEq

namespace Block

/-- Whether the block is an at-rule. -/
def isAtRule (b : Block) : Bool := !b.keyword.isEmpty

/-- Whether the body of the at-rule holds rules. -/
def isContainer (b : Block) : Bool :=
  AtRuleKind.containers.contains (AtRuleKind.stripVendor (Text.lower b.keyword))

/-- What stands before the body: the selectors, or the keyword and the condition. -/
def header (b : Block) : Text :=
  if b.passthrough then []
  else if b.isAtRule then Text.trim ('@' :: b.keyword ++ ' ' :: b.condition)
  else b.selectors

/-- The body without its braces.  A malformed body has no closing brace to take off. -/
def inner (b : Block) : Text :=
  let opened := if b.body.head? = some '{' then b.body.tail else b.body
  if opened.getLast? = some '}' ∧ b.malformed = false then opened.dropLast else opened

/-- The text of the block without the blanks around it. -/
def text (b : Block) : Text := Text.trim b.source

/-- The block with another body.  The text is built anew from the header, behind the blanks that
stood in front of it. -/
def withBody (b : Block) (body : Text) : Block :=
  { b with body, source := b.source.takeWhile Text.isBlank ++ b.header ++ ' ' :: body }

/-- The texts of the blocks, one below the other. -/
def serialize (bs : List Block) : Text :=
  Text.joinWith ['\n'] ((bs.map text).filter (!·.isEmpty))

end Block

end CssTrim
