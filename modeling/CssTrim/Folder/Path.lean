import CssTrim.Text

/-!
# Paths

A path is a list of names from the root or from the working directory.  Empty
names and names that are a single dot say nothing and are dropped.  A path that
starts with exactly two slashes keeps both of them.
-/

namespace CssTrim

/-- A path to a file or directory. -/
structure Path where
  /-- The number of slashes in front: none in a relative path. -/
  slashes : Nat := 0
  names : List Text
  deriving DecidableEq

namespace Path

/-- Whether a path starts at the root. -/
def isAbsolute (p : Path) : Bool := p.slashes != 0

/-- The number of slashes that are kept of those in front of a text. -/
def slashesOf (t : Text) : Nat :=
  match (t.takeWhile (· == '/')).length with
  | 0 => 0
  | 2 => 2
  | _ => 1

/-- Whether a name leads anywhere. -/
def isName (t : Text) : Bool := !t.isEmpty && t != ['.']

/-- The path that a text writes. -/
def ofText (t : Text) : Path := ⟨slashesOf t, (Text.splitOn (· == '/') t).filter isName⟩

/-- The text of a path. -/
def toText (p : Path) : Text :=
  let written := List.replicate p.slashes '/' ++ Text.joinWith ['/'] p.names
  if written.isEmpty then ['.'] else written

/-- The path `q` as seen from `p`. -/
def join (p q : Path) : Path := if q.isAbsolute then q else { p with names := p.names ++ q.names }

/-- The last name of a path. -/
def name (p : Path) : Text := p.names.getLastD []

/-- The path with another last name. -/
def withName (p : Path) (name : Text) : Path := { p with names := p.names.dropLast ++ [name] }

/-- The path with an ending behind its last name. -/
def withEnding (p : Path) (ending : Text) : Path := p.withName (p.name ++ ending)

/-- A name without its extension: its last dot and what follows, where there is something on both
sides of the dot. -/
def stemOf (name : Text) : Text :=
  let back := name.reverse
  match back.dropWhile (· != '.') with
  | _ :: front =>
    if front.isEmpty || (back.takeWhile (· != '.')).isEmpty then name else front.reverse
  | [] => name

/-- The last name of a path without its extension. -/
def stem (p : Path) : Text := stemOf p.name

end Path

end CssTrim
