import CssTrim.Pattern.Error
import CssTrim.Pattern.Syntax

/-!
# Reading a pattern token by token

A token is one character, or a backslash and the character behind it.  The
cursor holds the next token, so a backslash at the end of a pattern is reported
as soon as the token before it has been taken.

The state of a reader also holds what the pattern has said so far: its options,
its groups with their widths, and the references to groups that may come later.
-/

namespace CssTrim.Pattern

/-- Where a reader stands, and what it knows about the pattern. -/
structure ReadState where
  /-- The character with a name, if there is one. -/
  named? : Text → Option Char
  /-- The next token; it is empty at the end. -/
  next : Text
  /-- What follows the next token. -/
  rest : Text
  /-- The position behind the next token. -/
  index : Nat
  options : Options := []
  /-- Names of groups and their numbers. -/
  names : List (Text × Nat) := []
  /-- The widths of the groups from the first on; a group that is still open has none. -/
  widths : List (Option Width) := []
  /-- The number of the first group that opened inside the outermost part matched backwards. -/
  behindFrom : Option Nat := none
  /-- Numbers that conditions refer to, and the positions where they do. -/
  references : List (Nat × Nat) := []

/-- A reader of patterns. -/
abbrev Reader := StateT ReadState (Except Error)

namespace Reader

/-- The position of the next token. -/
def position : Reader Nat := do
  let s ← get
  pure (s.index - s.next.length)

/-- Fails at a position. -/
def failAt {α : Type} (fault : Fault) (position : Nat) : Reader α :=
  throw ⟨fault, some position⟩

/-- Fails this many characters before the next token. -/
def fail {α : Type} (fault : Fault) (back : Nat) : Reader α := do
  failAt fault ((← position) - back)

/-- Moves on to the token that starts the rest of the pattern. -/
def advance : Reader Unit := do
  let s ← get
  match s.rest with
  | [] => set { s with next := [] }
  | ['\\'] => failAt .escapeAtEnd s.index
  | '\\' :: c :: rest => set { s with next := ['\\', c], rest, index := s.index + 2 }
  | c :: rest => set { s with next := [c], rest, index := s.index + 1 }

/-- Takes the next token. -/
def take : Reader Text := do
  let token := (← get).next
  advance
  pure token

/-- Takes the next token if it is this character. -/
def accept (c : Char) : Reader Bool := do
  if (← get).next = [c] then
    advance
    pure true
  else pure false

/-- Takes at most `limit` tokens that are characters of a class. -/
def takeWhile (p : Char → Bool) : (limit : Nat) → Reader Text
  | 0 => pure []
  | limit + 1 => do
    match (← get).next with
    | [c] =>
      if p c then
        advance
        let more ← takeWhile p limit
        pure (c :: more)
      else pure []
    | _ => pure []

/-- Takes a name up to a terminator, and the terminator.  `read` is what has been taken. -/
def takeUntil (terminator : Char) (what read : Text) : (fuel : Nat) → Reader Text
  | 0 => fail .endOfPattern 0
  | fuel + 1 => do
    let token ← take
    if token.isEmpty then
      if read.isEmpty then fail (.missingName what) 0
      else fail (.unterminatedName terminator) read.length
    else if token = [terminator] then
      if read.isEmpty then fail (.missingName what) 1 else pure read
    else takeUntil terminator what (read ++ token) fuel

/-- Takes a name up to a terminator, and the terminator. -/
def name (terminator : Char) (what : Text) : Reader Text := do
  takeUntil terminator what [] ((← get).rest.length + 2)

/-! ## Groups -/

/-- The number of the next group. -/
def groups : Reader Nat := do pure ((← get).widths.length + 1)

/-- The width of a group that is closed. -/
def closedWidth (index : Nat) : Reader (Option Width) := do
  pure (((← get).widths[index - 1]?).join)

/-- Opens a group, with a name or without. -/
def openGroup (groupName : Option Text) : Reader Nat := do
  let s ← get
  let index := s.widths.length + 1
  let opened := { s with widths := s.widths ++ [none] }
  match groupName with
  | none => set opened
  | some n =>
    match s.names.find? (·.1 == n) with
    | some (_, former) => fail (.redefinedGroup n index former) (n.length + 1)
    | none => set { opened with names := s.names ++ [(n, index)] }
  pure index

/-- Closes a group. -/
def closeGroup (index : Nat) (width : Width) : Reader Unit :=
  modify fun s => { s with widths := s.widths.set (index - 1) (some width) }

/-- Refuses a reference from a part matched backwards to a group that is open or part of it. -/
def checkBehind (index : Nat) : Reader Unit := do
  match (← get).behindFrom with
  | none => pure ()
  | some first =>
    if (← closedWidth index).isNone then fail .openGroup 0
    else if index ≥ first then fail .lookbehindGroup 0

end Reader

end CssTrim.Pattern
