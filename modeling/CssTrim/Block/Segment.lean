import CssTrim.Block
import CssTrim.Lexeme

/-!
# Cutting a stylesheet into blocks

The lexemes of a stylesheet are cut into pieces, and every piece becomes a
block.  A piece starts with the blanks in front of it and is one of

* a comment outside any rule,
* a fragment that ends with a semicolon outside brackets, with a closing brace
  that closes nothing, or with the input,
* a rule: a header, an opening brace, and all up to the brace that closes it.

The pieces, written one after the other, are the stylesheet less the blanks at
its end, whatever the input.  A rule that the input does not close is marked as
malformed.
-/

namespace CssTrim

/-- One piece of the lexemes of a stylesheet. -/
inductive Piece where
  /-- A comment, a statement or stray text. -/
  | fragment (source : List Lexeme)
  /-- A rule: what precedes the opening brace, what follows it up to the closing brace, and
  whether there is a closing brace. -/
  | rule (header inner : List Lexeme) (closed : Bool)

namespace Piece

/-! ## Where headers and bodies end -/

/-- Whether a lexeme ends a header inside this many open brackets. -/
def endsHeader (depth : Nat) (l : Lexeme) : Bool :=
  l == .plain '{' || l == .plain '}' || (l == .plain ';' && depth == 0)

/-- The number of open brackets behind a lexeme. -/
def bracketsAfter (depth : Nat) : Lexeme → Nat
  | .plain '(' => depth + 1
  | .plain '[' => depth + 1
  | .plain ')' => depth - 1
  | .plain ']' => depth - 1
  | _ => depth

/-- Cuts before the lexeme that ends a header. -/
def spanHeader (depth : Nat) : List Lexeme → List Lexeme × List Lexeme
  | [] => ([], [])
  | l :: rest =>
    if endsHeader depth l then ([], l :: rest)
    else (spanHeader (bracketsAfter depth l) rest).map (l :: ·) id

/-- Cuts at the brace that closes a body: what stands before it inside this many further open
braces, and what follows it. -/
def spanBody (depth : Nat) : List Lexeme → Option (List Lexeme × List Lexeme)
  | [] => none
  | l :: rest =>
    if l = .plain '{' then
      (spanBody (depth + 1) rest).map (·.map (l :: ·) id)
    else if l = .plain '}' then
      match depth with
      | 0 => some ([], rest)
      | outer + 1 => (spanBody outer rest).map (·.map (l :: ·) id)
    else
      (spanBody depth rest).map (·.map (l :: ·) id)

theorem length_spanHeader_le (depth : Nat) (ls : List Lexeme) :
    (spanHeader depth ls).2.length ≤ ls.length := by
  fun_induction spanHeader depth ls <;> simp_all; omega

theorem length_spanBody_lt {depth : Nat} {ls front back : List Lexeme}
    (h : spanBody depth ls = some (front, back)) : back.length < ls.length := by
  induction ls generalizing depth front back with
  | nil => simp [spanBody] at h
  | cons l rest ih =>
    have step : ∀ {d : Nat},
        (spanBody d rest).map (·.map (l :: ·) id) = some (front, back) →
          back.length < rest.length := by
      intro d hd
      obtain ⟨p, hp, he⟩ := Option.map_eq_some_iff.1 hd
      have hback : p.2 = back := congrArg Prod.snd he
      have hlt := ih hp
      rwa [hback] at hlt
    rw [List.length_cons]
    unfold spanBody at h
    split at h
    · exact Nat.lt_succ_of_lt (step h)
    · split at h
      · cases depth with
        | zero => simp_all
        | succ outer => exact Nat.lt_succ_of_lt (step h)
      · exact Nat.lt_succ_of_lt (step h)

/-! ## The pieces of a stylesheet -/

/-- Cuts lexemes into pieces.  The blanks behind the last piece belong to none. -/
def ofLexemes (ls : List Lexeme) : List Piece :=
  let lead := ls.takeWhile Lexeme.isBlank
  match h : ls.dropWhile Lexeme.isBlank with
  | [] => []
  | .comment body :: rest => .fragment (lead ++ [.comment body]) :: ofLexemes rest
  | first :: rest =>
    match _hcut : spanHeader 0 (first :: rest) with
    | (front, []) => [.fragment (lead ++ front)]
    | (front, stop :: rest₂) =>
      if stop = .plain '{' then
        match _hbody : spanBody 0 rest₂ with
        | none => [.rule (lead ++ front) rest₂ false]
        | some (inner, rest₃) => .rule (lead ++ front) inner true :: ofLexemes rest₃
      else .fragment (lead ++ front ++ [stop]) :: ofLexemes rest₂
termination_by ls.length
decreasing_by
  all_goals
    have hdrop : (ls.dropWhile Lexeme.isBlank).length ≤ ls.length :=
      (List.dropWhile_suffix Lexeme.isBlank).length_le
    rw [h] at hdrop
  · simp only [List.length_cons] at hdrop
    omega
  · have hspan := length_spanHeader_le 0 (first :: rest)
    have hbody := length_spanBody_lt _hbody
    rw [_hcut] at hspan
    simp only [List.length_cons] at hspan hdrop
    omega
  · have hspan := length_spanHeader_le 0 (first :: rest)
    rw [_hcut] at hspan
    simp only [List.length_cons] at hspan hdrop
    omega

end Piece

/-! ## From pieces to blocks -/

/-- Reads the keyword at the start of a header: an at sign and a name, which may start with a
hyphen. -/
def atKeyword? : Text → Option (Text × Text)
  | '@' :: rest =>
    let (hyphen, name) : Text × Text :=
      match rest with
      | '-' :: more => (['-'], more)
      | _ => ([], rest)
    match name with
    | c :: _ =>
      if c = '_' ∨ Text.isAsciiLetter c then
        some (hyphen ++ name.takeWhile isKeywordChar, name.dropWhile isKeywordChar)
      else none
    | [] => none
  | _ => none
where
  /-- A character that continues a keyword. -/
  isKeywordChar (c : Char) : Bool := c == '-' || Text.isWordChar c

namespace Block

/-- The block of a fragment. -/
def ofFragment (order : Nat) (source : List Lexeme) : Block :=
  let text := Lexeme.textOf source
  { body := Text.trim text, order, passthrough := true, source := text }

/-- The block of a rule.  Comments are taken out of its header. -/
def ofRule (order : Nat) (header inner : List Lexeme) (closed : Bool) : Block :=
  let body := '{' :: Lexeme.textOf inner ++ (if closed then ['}'] else [])
  let written := Text.trim (Lexeme.textOf (header.filter (!·.isComment)))
  let source := Lexeme.textOf header ++ body
  match atKeyword? written with
  | some (keyword, rest) =>
    { body, kind := .ofKeyword keyword, condition := Text.trim rest, order,
      malformed := !closed, keyword, source }
  | none =>
    { selectors := written, body, condition := written, order, malformed := !closed, source }

/-- The block of a piece at this place. -/
def ofPiece (order : Nat) : Piece → Block
  | .fragment source => ofFragment order source
  | .rule header inner closed => ofRule order header inner closed

/-- The blocks of pieces, numbered from `order` on. -/
def ofPieces (order : Nat) : List Piece → List Block
  | [] => []
  | p :: rest => ofPiece order p :: ofPieces (order + 1) rest

/-- The blocks of a stylesheet, comments included. -/
def segment (css : Text) : List Block := ofPieces 0 (Piece.ofLexemes (Text.lexemes css))

/-- The blocks of a stylesheet.  Comments become blocks, or are taken out first. -/
def segmentWith (keepComments : Bool) (css : Text) : List Block :=
  segment (if keepComments then css else Text.stripComments css)

/-- The blocks nested in the body of a rule. -/
def segmentInnerWith (keepComments : Bool) (b : Block) : List Block :=
  if b.passthrough ∨ b.body.head? ≠ some '{' then [] else segmentWith keepComments b.inner

/-- The blocks nested in the body of a rule, comments included. -/
def segmentInner (b : Block) : List Block := segmentInnerWith true b

end Block

end CssTrim
