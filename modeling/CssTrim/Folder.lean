import CssTrim.Folder.Path
import CssTrim.Text.LineBreak
import CssTrim.Text.Utf8

/-!
# Files

A folder is what a run can see of the file system: files with their octets,
directories, and the working directory, each at its place under the root.

A path is followed name by name.  Every name but the last has to lead to a
directory, and two dots lead back to the directory above.
-/

namespace CssTrim

/-- What is at a place. -/
inductive Folder.Node where
  | file (bytes : List UInt8)
  | directory
  deriving DecidableEq

/-- Files and directories by the names that lead to them from the root. -/
structure Folder where
  /-- The place of the working directory. -/
  here : List Text := []
  nodes : List (List Text × Folder.Node) := []

namespace Folder

/-- What is at a place.  What lies on the way to another place is a directory. -/
def at? (f : Folder) (place : List Text) : Option Node :=
  match f.nodes.find? (·.1 == place) with
  | some (_, node) => some node
  | none =>
    if place.isPrefixOf f.here || f.nodes.any (place.isPrefixOf ·.1) then some .directory else none

/-- Whether there is a directory at a place. -/
def isDirectory (f : Folder) (place : List Text) : Bool := f.at? place = some .directory

/-- The place that names lead to. -/
def follow (f : Folder) (place : List Text) : List Text → Option (List Text)
  | [] => some place
  | name :: rest =>
    if f.isDirectory place then
      follow f (if name = "..".toList then place.dropLast else place ++ [name]) rest
    else none

/-- The place that a path leads to.  There need not be anything at the place itself. -/
def place? (f : Folder) (p : Path) : Option (List Text) :=
  f.follow (if p.isAbsolute then [] else f.here) p.names

/-- What a path leads to. -/
def find? (f : Folder) (p : Path) : Option Node := (f.place? p).bind f.at?

/-- The largest number of octets in a name. -/
def nameLimit : Nat := 255

/-- Whether names lead from a place to one that is too long to be looked up in its directory. -/
def meetsLongName (f : Folder) (place : List Text) : List Text → Bool
  | [] => false
  | name :: rest =>
    f.isDirectory place && ((Text.Utf8.encode name).length > nameLimit ||
      meetsLongName f (if name = "..".toList then place.dropLast else place ++ [name]) rest)

/-- Whether a path is refused, and not only found to lead nowhere. -/
def refuses (f : Folder) (p : Path) : Bool :=
  f.meetsLongName (if p.isAbsolute then [] else f.here) p.names

/-- Whether a path leads to something. -/
def exists? (f : Folder) (p : Path) : Bool := (f.find? p).isSome

/-- The octets of the file that a path leads to. -/
def bytes? (f : Folder) (p : Path) : Option (List UInt8) :=
  match f.find? p with
  | some (.file bytes) => some bytes
  | _ => none

/-- The text of the file that a path leads to.  Octets that are no text are left out. -/
def text? (f : Folder) (p : Path) : Option Text :=
  (f.bytes? p).map fun bytes => Text.unifyBreaks (Text.Utf8.decodeSkipping bytes)

/-- Puts a node at a place, instead of the one there if there is one. -/
def put (place : List Text) (node : Node) : List (List Text × Node) → List (List Text × Node)
  | [] => [(place, node)]
  | (q, old) :: rest => if q = place then (q, node) :: rest else (q, old) :: put place node rest

/-- The folder with this text in a file.  There is none if the path leads to no file and to no free
place in a directory. -/
def write? (f : Folder) (p : Path) (t : Text) : Option Folder :=
  match f.place? p with
  | none => none
  | some place =>
    if f.isDirectory place then none
    else some { f with nodes := put place (.file (Text.Utf8.encode t)) f.nodes }

end Folder

end CssTrim
