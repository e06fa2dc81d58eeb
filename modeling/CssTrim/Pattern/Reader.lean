import CssTrim.Pattern.Cursor
import CssTrim.Text.Identifier

/-!
# Reading patterns

The grammar of regular expressions: alternatives of sequences of items, where an
item is a character, a set, an anchor, a group or a repetition of the item
before it.

An opening brace that starts no repetition stands for itself, and so does a
closing bracket at the start of a set.  Options for the whole pattern may stand
at its start only.
-/

namespace CssTrim.Pattern.Reader

open Text

/-! ## Escapes -/

/-- The characters that escapes of one letter stand for. -/
def controlEscape? (c : Char) : Option Nat :=
  match c with
  | 'a' => some 7
  | 'b' => some 8
  | 'f' => some 12
  | 'n' => some 10
  | 'r' => some 13
  | 't' => some 9
  | 'v' => some 11
  | '\\' => some 92
  | _ => none

/-- The classes that escapes stand for. -/
def categoryEscape? (c : Char) : Option SetItem :=
  match c with
  | 'd' => some (.category .digit true)
  | 'D' => some (.category .digit false)
  | 's' => some (.category .blank true)
  | 'S' => some (.category .blank false)
  | 'w' => some (.category .word true)
  | 'W' => some (.category .word false)
  | _ => none

/-- The anchors that escapes stand for. -/
def anchorEscape? (c : Char) : Option Anchor :=
  match c with
  | 'A' => some .textStart
  | 'Z' => some .textFinish
  | 'b' => some .wordEdge
  | 'B' => some .noWordEdge
  | _ => none

/-- Whether a character is a hexadecimal digit. -/
def isHex (c : Char) : Bool := (hexValue? c).isSome

/-- Whether a character is an octal digit. -/
def isOctal (c : Char) : Bool := '0' ≤ c && c ≤ '7'

/-- The number that octal digits write. -/
def octalNumber (digits : Text) : Nat :=
  digits.foldl (fun n c => n * 8 + (c.toNat - '0'.toNat)) 0

/-- The number that decimal digits write. -/
def decimalNumber (digits : Text) : Nat :=
  digits.foldl (fun n c => n * 10 + (digitValue? c).getD 0) 0

/-- Reads exactly `count` hexadecimal digits behind an escape. -/
def hexEscape (source : Text) (count : Nat) : Reader Nat := do
  let digits ← takeWhile isHex count
  let written := source ++ digits
  if digits.length ≠ count then fail (.incompleteEscape written) written.length
  else if hexNumber digits > 0x10ffff then fail (.escape written) written.length
  else pure (hexNumber digits)

/-- Reads the name of a character. -/
def namedEscape : Reader Nat := do
  if !(← accept '\x7b') then fail .missingBrace 0
  else
    let n ← name '\x7d' "character name".toList
    match (← get).named? n with
    | some c => pure c.toNat
    | none => fail (.characterName n) (n.length + 4)

/-- Reads the code of an escape that means the same inside and outside sets. -/
def plainEscape (source : Text) (c : Char) : Reader Nat :=
  if c = 'x' then hexEscape source 2
  else if c = 'u' then hexEscape source 4
  else if c = 'U' then hexEscape source 8
  else if c = 'N' then namedEscape
  else if isAsciiLetter c ∨ isAsciiDigit c then fail (.escape source) source.length
  else pure c.toNat

/-- The item of a set that an escape stands for. -/
def setEscape (c : Char) : Reader SetItem := do
  let source := ['\\', c]
  match controlEscape? c, categoryEscape? c with
  | some n, _ => pure (.code n)
  | none, some item => pure item
  | none, none =>
    if isOctal c then
      let digits := c :: (← takeWhile isOctal 2)
      let written := '\\' :: digits
      if octalNumber digits > 0o377 then fail (.octalEscape written) written.length
      else pure (.code (octalNumber digits))
    else pure (.code (← plainEscape source c))

/-- A reference to a group by its number. -/
def groupReference (source : Text) (index : Nat) : Reader Node := do
  if index < (← groups) then
    match ← closedWidth index with
    | none => fail .openGroup source.length
    | some width =>
      checkBehind index
      pure (.backref index width)
  else fail (.groupReference index) (source.length - 1)

/-- The item that an escape outside sets stands for. -/
def escape (c : Char) : Reader Node := do
  let source := ['\\', c]
  match anchorEscape? c, categoryEscape? c, controlEscape? c with
  | some a, _, _ => pure (.anchor a)
  | none, some item, _ => pure (.set false [item])
  | none, none, some n => pure (.code n)
  | none, none, none =>
    if c = '0' then
      let digits ← takeWhile isOctal 2
      pure (.code (octalNumber digits))
    else if isAsciiDigit c then
      match ← takeWhile isAsciiDigit 1 with
      | [d] =>
        if isOctal c && isOctal d then
          match ← takeWhile isOctal 1 with
          | [e] =>
            let digits := [c, d, e]
            if octalNumber digits > 0o377 then fail (.octalEscape ('\\' :: digits)) 4
            else pure (.code (octalNumber digits))
          | _ => groupReference ['\\', c, d] (decimalNumber [c, d])
        else groupReference ['\\', c, d] (decimalNumber [c, d])
      | _ => groupReference source (decimalNumber [c])
    else pure (.code (← plainEscape source c))

/-! ## Sets -/

/-- The item of a set that a token stands for. -/
def setItem (token : Text) : Reader SetItem :=
  match token with
  | ['\\', c] => setEscape c
  | c :: _ => pure (.code c.toNat)
  | [] => pure (.code 0)

/-- Reads the items of a set up to its closing bracket, behind `items`.  The set has been opened at
the position `start`. -/
def setItems (start : Nat) (items : List SetItem) : (fuel : Nat) → Reader (List SetItem)
  | 0 => failAt .unterminatedSet start
  | fuel + 1 => do
    let token ← take
    if token.isEmpty then failAt .unterminatedSet start
    else if token = [']'] ∧ !items.isEmpty then pure items
    else
      let first ← setItem token
      if ← accept '-' then
        let other ← take
        if other.isEmpty then failAt .unterminatedSet start
        else if other = [']'] then pure (items ++ [first, .code '-'.toNat])
        else
          let second ← setItem other
          let bad : Reader (List SetItem) :=
            fail (.range token other) (token.length + 1 + other.length)
          match first, second with
          | .code low, .code high =>
            if high < low then bad else setItems start (items ++ [.range low high]) fuel
          | _, _ => bad
      else setItems start (items ++ [first]) fuel

/-- Reads a set, of which the opening bracket has been read. -/
def set : Reader Node := do
  let start := (← position) - 1
  let negated ← accept '^'
  let items ← setItems start [] ((← get).rest.length + 2)
  pure (.set negated items)

/-! ## Repetitions -/

/-- The largest number of repetitions that a pattern may write. -/
def repeatLimit : Nat := 4294967295

/-- The number of repetitions that digits write. -/
def repeatCount (digits : Text) : Reader Nat :=
  if digits.length > digitLimit then throw ⟨.manyDigits digits.length, none⟩
  else if decimalNumber digits ≥ repeatLimit then throw ⟨.hugeRepeat, none⟩
  else pure (decimalNumber digits)

/-- Reads the bounds of a repetition in braces, of which the opening one has been read.  Where there
is no such repetition, nothing is read. -/
def braceBounds : Reader (Option (Nat × Option Nat)) := do
  let before ← get
  let start ← position
  if before.next = ['\x7d'] then pure none
  else
    let limit := before.rest.length + 1
    let low ← takeWhile isAsciiDigit limit
    let high ← if ← accept ',' then takeWhile isAsciiDigit limit else pure low
    if !(← accept '\x7d') then
      modify fun _ => before
      pure none
    else
      let least ← repeatCount low
      let most ← if high.isEmpty then pure none else some <$> repeatCount high
      if most.getD least < least then failAt .repeatBounds start
      else pure (some (least, most))

/-- The bounds that a repetition sign stands for, and none if the sign stands for itself. -/
def bounds (sign : Char) : Reader (Option (Nat × Option Nat)) :=
  match sign with
  | '?' => pure (some (0, some 1))
  | '*' => pure (some (0, none))
  | '+' => pure (some (1, none))
  | _ => braceBounds

/-- Reads the sign that says how a repetition is tried. -/
def greed : Reader Greed := do
  if ← accept '?' then pure .lazy
  else if ← accept '+' then pure .possessive
  else pure .greedy

/-- Repeats the last of the items, which are given last first.  The repetition sign stands at the
position `start`. -/
def repeatLast (start : Nat) (least : Nat) (most : Option Nat) (items : List Node) :
    Reader (List Node) :=
  match items with
  | [] => failAt .nothingToRepeat start
  | .anchor _ :: _ => failAt .nothingToRepeat start
  | .repeated .. :: _ => failAt .multipleRepeat start
  | item :: rest => do pure (.repeated (← greed) least most item :: rest)

/-! ## Options -/

/-- The letters of options. -/
def optionLetters : Options := "iLmsxatu".toList

/-- Options that hold for a whole pattern only. -/
def globalOptions : Options := ['t']

/-- The fault of a token that is no option where one is needed. -/
def optionFault (token : Text) (otherwise : Fault) : Fault :=
  match token with
  | [c] => if isLetter c then .unknownOption else otherwise
  | _ => otherwise

/-- The letter of a token that is an option. -/
def optionOf? (token : Text) : Option Char :=
  match token with
  | [c] => if optionLetters.contains c then some c else none
  | _ => none

/-- Reads the options to switch on, from the letter `c` on, and the token that ends them. -/
def optionsOn (on : Options) (c : Char) : (fuel : Nat) → Reader (Options × Text)
  | 0 => fail .missingOptionsEnd 0
  | fuel + 1 => do
    if c = 'L' then fail .byteOption 0
    else if Options.charsets.contains c && on.any fun d => Options.charsets.contains d && d != c
    then fail .exclusiveOptions 0
    else
      let token ← take
      if token.isEmpty then fail .missingOptionsEnd 0
      else if token = [')'] ∨ token = ['-'] ∨ token = [':'] then pure (on ++ [c], token)
      else
        match optionOf? token with
        | some d => optionsOn (on ++ [c]) d fuel
        | none => fail (optionFault token .missingOptionsEnd) token.length

/-- Reads the options to switch off, from the letter `c` on, up to the colon. -/
def optionsOff (off : Options) (c : Char) : (fuel : Nat) → Reader Options
  | 0 => fail .missingColon 0
  | fuel + 1 => do
    if Options.charsets.contains c then fail .charsetOff 0
    else
      let token ← take
      if token.isEmpty then fail .missingColon 0
      else if token = [':'] then pure (off ++ [c])
      else
        match optionOf? token with
        | some d => optionsOff (off ++ [c]) d fuel
        | none => fail (optionFault token .missingColon) token.length

/-- Reads options from a token on.  The answer is what a group switches on and off, and nothing for
options of the whole pattern, which are then set. -/
def readOptions (token : Text) : Reader (Option (Options × Options)) := do
  let fuel := (← get).rest.length + 2
  let (on, stop) ←
    match optionOf? token with
    | some c => optionsOn [] c fuel
    | none => pure ([], token)
  if stop = [')'] then
    modify fun s => { s with options := s.options ++ on }
    pure none
  else if on.any globalOptions.contains then fail .globalOptionOn 1
  else
    let off ←
      if stop = ['-'] then
        let first ← take
        if first.isEmpty then fail .missingOption 0
        else
          match optionOf? first with
          | some c => optionsOff [] c fuel
          | none => fail (optionFault first .missingOption) first.length
      else pure []
    if off.any globalOptions.contains then fail .globalOptionOff 1
    else if on.any off.contains then fail .optionOnAndOff 1
    else pure (some (on, off))

/-! ## Groups -/

/-- The number that no number of a group reaches. -/
def groupLimit : Nat := 1073741823

/-- Refuses a text that may not name a group. -/
def checkGroupName (n : Text) : Reader Unit := do
  if !isIdentifier n then fail (.groupNameCharacter n) (n.length + 1)

/-- Reads a reference to a group by its name, up to the closing parenthesis. -/
def namedReference : Reader Node := do
  let n ← name ')' "group name".toList
  checkGroupName n
  match (← get).names.find? (·.1 == n) with
  | none => fail (.unknownGroup n) (n.length + 1)
  | some (_, index) =>
    match ← closedWidth index with
    | none => fail .openGroup (n.length + 1)
    | some width =>
      checkBehind index
      pure (.backref index width)

/-- Reads the group that a condition asks about. -/
def conditionGroup : Reader Nat := do
  let n ← name ')' "group name".toList
  let index ←
    if isIdentifier n then
      match (← get).names.find? (·.1 == n) with
      | some (_, index) => pure index
      | none => fail (.unknownGroup n) (n.length + 1)
    else
      match toInt? n with
      | some (.ofNat index) =>
        if index = 0 then fail .groupNumber (n.length + 1)
        else if index ≥ groupLimit then fail (.groupReference index) (n.length + 1)
        else
          let here := (← position) - n.length - 1
          modify fun s =>
            if s.references.any (·.1 == index) then s
            else { s with references := s.references ++ [(index, here)] }
          pure index
      | _ => fail (.groupNameCharacter n) (n.length + 1)
  checkBehind index
  pure index

/-- Skips a comment, of which the opening has been read. -/
def skipComment (start : Nat) : (fuel : Nat) → Reader Unit
  | 0 => failAt .unclosedComment start
  | fuel + 1 => do
    if (← get).next.isEmpty then failAt .unclosedComment start
    else if (← take) = [')'] then pure ()
    else skipComment start fuel

/-- Skips the rest of a line. -/
def skipLine : (fuel : Nat) → Reader Unit
  | 0 => pure ()
  | fuel + 1 => do
    let token ← take
    if token.isEmpty ∨ token = ['\n'] then pure () else skipLine fuel

/-- What the opening of a group says about it. -/
inductive Opening where
  /-- A group, whose text is recorded or not. -/
  | group (groupName : Option Text) (recorded : Bool)
  | atomic
  | look (back negated : Bool)
  | conditional
  | scope (on off : Options)
  /-- The parentheses hold no tree of their own; they may stand for an item. -/
  | done (item : Option Node)

/-- Reads the opening of a group behind a question mark.  `atStart` says whether nothing stands
before it in the pattern. -/
def extension (start : Nat) (atStart : Bool) : Reader Opening := do
  let token ← take
  match token with
  | [] => fail .endOfPattern 0
  | ['P'] =>
    if ← accept '<' then
      let n ← name '>' "group name".toList
      checkGroupName n
      pure (.group (some n) true)
    else if ← accept '=' then pure (.done (some (← namedReference)))
    else
      let other ← take
      if other.isEmpty then fail .endOfPattern 0
      else fail (.extension ('P' :: other)) (other.length + 2)
  | [':'] => pure (.group none false)
  | ['#'] =>
    skipComment start ((← get).rest.length + 2)
    pure (.done none)
  | ['='] => pure (.look false false)
  | ['!'] => pure (.look false true)
  | ['<'] =>
    let other ← take
    if other.isEmpty then fail .endOfPattern 0
    else if other = ['='] then pure (.look true false)
    else if other = ['!'] then pure (.look true true)
    else fail (.extension ('<' :: other)) (other.length + 2)
  | ['('] => pure .conditional
  | ['>'] => pure .atomic
  | _ =>
    if (optionOf? token).isSome ∨ token = ['-'] then
      match ← readOptions token with
      | some (on, off) => pure (.scope on off)
      | none =>
        if atStart then pure (.done none) else failAt .optionsNotAtStart start
    else fail (.extension token) (token.length + 1)

/-- Takes the parenthesis that closes a group opened at `start`. -/
def close (start : Nat) : Reader Unit := do
  if !(← accept ')') then failAt .unclosedGroup start

/-- Whether blanks and comments are skipped. -/
def isVerbose (options : Options) : Bool := options.contains 'x'

mutual

/-- Reads alternatives up to a closing parenthesis or the end.  Every step takes a token or is
followed by one that does, so `fuel` is a multiple of the number of tokens.  `top` says whether the
alternatives are the whole pattern. -/
def alternatives (verbose top : Bool) (before : List Node) : (fuel : Nat) → Reader Node
  | 0 => fail .unclosedGroup 0
  | fuel + 1 => do
    let item ← items verbose (top && before.isEmpty) [] fuel
    if ← accept '|' then
      let skipping := isVerbose (← get).options
      alternatives (if top then skipping else verbose) top (before ++ [item]) fuel
    else pure (.choice (before ++ [item]))

/-- Reads the items of a sequence, behind those already read, which are given last first. -/
def items (verbose top : Bool) (before : List Node) : (fuel : Nat) → Reader Node
  | 0 => fail .unclosedGroup 0
  | fuel + 1 => do
    match (← get).next with
    | [] | ['|'] | [')'] => pure (.sequence before.reverse)
    | ['\\', c] =>
      advance
      let item ← escape c
      items verbose top (item :: before) fuel
    | c :: _ =>
      let start ← position
      advance
      if verbose && (" \t\n\r\x0b\x0c".toList.contains c) then items verbose top before fuel
      else if verbose && c == '#' then
        skipLine ((← get).rest.length + 2)
        items verbose top before fuel
      else if c = '[' then
        let item ← set
        items verbose top (item :: before) fuel
      else if c = '*' ∨ c = '+' ∨ c = '?' ∨ c = '\x7b' then
        match ← bounds c with
        | none => items verbose top (.code c.toNat :: before) fuel
        | some (least, most) => items verbose top (← repeatLast start least most before) fuel
      else if c = '.' then items verbose top (.any :: before) fuel
      else if c = '^' then items verbose top (.anchor .start :: before) fuel
      else if c = '$' then items verbose top (.anchor .finish :: before) fuel
      else if c = '(' then
        let opening ←
          if ← accept '?' then extension start (top && before.isEmpty)
          else pure (.group none true)
        match opening with
        | .done item =>
          let skipping := isVerbose (← get).options
          let atStart := item.isNone && top && before.isEmpty
          items (if atStart then skipping else verbose) top (item.toList ++ before) fuel
        | opening =>
          let item ← group verbose start opening fuel
          items verbose top (item :: before) fuel
      else items verbose top (.code c.toNat :: before) fuel

/-- Reads the body of a group and its closing parenthesis. -/
def group (verbose : Bool) (start : Nat) (opening : Opening) : (fuel : Nat) → Reader Node
  | 0 => fail .unclosedGroup 0
  | fuel + 1 => do
    match opening with
    | .group groupName true =>
      let index ← openGroup groupName
      let body ← alternatives verbose false [] fuel
      close start
      closeGroup index body.width
      pure (.capture index body)
    | .group _ false =>
      let body ← alternatives verbose false [] fuel
      close start
      pure (.grouped [] [] body)
    | .atomic =>
      let body ← alternatives verbose false [] fuel
      close start
      pure (.atomic body)
    | .scope on off =>
      let skipping := (verbose || isVerbose on) && !isVerbose off
      let body ← alternatives skipping false [] fuel
      close start
      pure (.grouped on off body)
    | .look false negated =>
      let body ← alternatives verbose false [] fuel
      close start
      pure (.ahead negated body)
    | .look true negated =>
      let outer := (← get).behindFrom
      if outer.isNone then
        let first ← groups
        modify fun s => { s with behindFrom := some first }
      let body ← alternatives verbose false [] fuel
      if outer.isNone then modify fun s => { s with behindFrom := none }
      close start
      pure (.behind negated body)
    | .conditional =>
      let index ← conditionGroup
      let yes ← items verbose false [] fuel
      let no ←
        if ← accept '|' then
          let no ← items verbose false [] fuel
          if (← get).next = ['|'] then fail .conditionalBranches 0 else pure no
        else pure .empty
      close start
      pure (.conditional index yes no)
    | .done _ => pure .empty

end

/-! ## Whole patterns -/

/-- The largest width that a part that is matched backwards may have. -/
def lookbehindLimit : Nat := 4294967295

/-- The first fault of a tree, where `template` says whether repetitions are forbidden. -/
def faultOf? (template : Bool) : Node → Option Fault
  | .empty | .code _ | .set _ _ | .any | .anchor _ | .backref _ _ => none
  | .seq a b | .alt a b | .conditional _ a b => (faultOf? template a).or (faultOf? template b)
  | .capture _ a | .grouped _ _ a | .atomic a | .ahead _ a => faultOf? template a
  | .repeated greed _ _ a => if template then some (.templateRepeat greed) else faultOf? template a
  | .behind _ a =>
    if a.width.1 > lookbehindLimit then some .longLookbehind
    else if a.width.2 = some a.width.1 then faultOf? template a
    else some .openLookbehind

/-- Reads a whole pattern. -/
def pattern : Reader Node := do
  advance
  let node ← alternatives false true [] (4 * (← get).rest.length + 8)
  let s ← get
  if s.options.contains 'a' && s.options.contains 'u' then throw ⟨.exclusiveCharsets, none⟩
  else if !s.next.isEmpty then fail .unbalancedParenthesis 0
  else
    match s.references.find? fun r => r.1 > s.widths.length with
    | some (index, position) => failAt (.groupReference index) position
    | none =>
      match faultOf? (s.options.contains 't') node with
      | some fault => throw ⟨fault, none⟩
      | none => pure node

end CssTrim.Pattern.Reader
