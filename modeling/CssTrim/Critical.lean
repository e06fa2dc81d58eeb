import CssTrim.Markup.Element
import CssTrim.Usage

/-!
# Critical selectors

The elements near the start of the body of a page are above the fold.  From them
a list of selectors is built: a seed, then for every element its tag, its
classes, its id and the combinations of these, and in the end variants of all of
them for interaction.  The list holds no selector twice and is cut at a limit.

`inlineStyle` puts critical rules into the head of a page.
-/

namespace CssTrim.Critical

open Text

/-! ## Elements above the fold -/

/-- An element above the fold. -/
structure Element where
  tag : Text
  classes : List Text := []
  id : Option Text := none
  line : Int := 0
  deriving DecidableEq

/-- The element of a start tag on a line. -/
def Element.ofTag (tag : Markup.StartTag) (line : Nat) : Element where
  tag := lower tag.name
  classes := words ((tag.attribute? "class".toList).getD [])
  id := ((tag.attribute? "id".toList).map trim).filter (!·.isEmpty)
  line := line

/-- The elements that start at most `window` lines below the start of a body. -/
def Element.ofBody (window : Int) (body : Markup.Body) : List Element :=
  (body.tags.takeWhile fun (_, line) => (line : Int) ≤ body.line + window).map
    fun (tag, line) => .ofTag tag line

/-- The elements above the fold of a page.  An empty page is not read and has none. -/
def scan (read : Markup.PageReader) (window : Int) (page : Text) :
    Except Markup.Rejection (List Element) :=
  if page.isEmpty then .ok []
  else (read page).map fun body => (body.map (Element.ofBody window)).getD []

/-! ## Selectors -/

/-- The selectors that the list starts with, where no others are given. -/
def defaultSeed : List Text :=
  ["html".toList, "body".toList, "head".toList, "title".toList, "header".toList, "nav".toList,
    "main".toList, "footer".toList, ".hero".toList, ".above-fold".toList, ".critical".toList,
    "[data-critical]".toList]

/-- The number of lines that count as above the fold. -/
def defaultWindow : Int := 50

/-- The largest number of selectors. -/
def defaultLimit : Int := 500

/-- The pseudo-classes of the variants. -/
def variants : List Text := [":hover".toList, ":focus".toList, ":active".toList]

/-- The selectors of an element. -/
def selectorsOf (e : Element) : List Text :=
  let tag := lower e.tag
  let ids := (e.id.filter (!·.isEmpty)).toList
  (if tag.isEmpty then [] else [tag]) ++ e.classes.map ('.' :: ·) ++ ids.map ('#' :: ·) ++
    e.classes.flatMap fun c =>
      (if tag.isEmpty then [] else [tag ++ '.' :: c]) ++ ids.map fun i => '#' :: i ++ '.' :: c

/-- Adds a selector to a list, unless it is blank or there already or the list is full. -/
def addSelector (limit : Int) (listed : List Text) (selector : Text) : List Text :=
  let written := squeeze selector
  if written.isEmpty || listed.contains written || (listed.length : Int) ≥ limit then listed
  else listed ++ [written]

/-- The list of critical selectors. -/
def selectors (elements : List Element) (seed : List Text) (limit : Int) : List Text :=
  let plain := (seed ++ elements.flatMap selectorsOf).foldl (addSelector limit) []
  (plain.flatMap fun s => variants.map (s ++ ·)).foldl (addSelector limit) plain

/-- The usage that lists the critical selectors. -/
def usage (elements : List Element) (seed : List Text) (limit : Int) : Usage :=
  .ofSelectors (selectors elements seed limit)

/-! ## Inlining -/

/-- What follows the word `head` in a tag with this opening, in any case. -/
def afterHead? (opening t : Text) : Option Text :=
  let word := opening ++ "head".toList
  if eqAsciiCase (t.take word.length) word then some (t.drop word.length) else none

/-- Cuts a page in front of the end tag of its head. -/
def beforeHeadEnd? : Text → Option (Text × Text)
  | [] => none
  | c :: rest =>
    match (afterHead? "</".toList (c :: rest)).bind fun left => after? ['>'] (trimStart left) with
    | some _ => some ([], c :: rest)
    | none => (beforeHeadEnd? rest).map (·.map (c :: ·) id)

/-- Cuts a page behind the start tag of its head. -/
def afterHeadStart? : Text → Option (Text × Text)
  | [] => none
  | c :: rest =>
    let found := (afterHead? ['<'] (c :: rest)).bind fun left =>
      if noWordChar left.head? then (upTo? (· == '>') left).map (·.2) else none
    match found with
    | some left => some ((c :: rest).take (rest.length + 1 - left.length), left)
    | none => (afterHeadStart? rest).map (·.map (c :: ·) id)

/-- A style element with the rules. -/
def styleElement (css : Text) : Text :=
  "\n<style>\n".toList ++ css ++ "\n</style>\n".toList

/-- A page with the rules in its head.  A page without a head gets one in front. -/
def inlineStyle (page css : Text) : Text :=
  match beforeHeadEnd? page with
  | some (front, back) => front ++ styleElement css ++ back
  | none =>
    match afterHeadStart? page with
    | some (front, back) => front ++ styleElement css ++ back
    | none => "<head>".toList ++ styleElement css ++ "</head>\n".toList ++ page

end CssTrim.Critical
