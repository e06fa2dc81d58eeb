import CssTrim.Text

/-!
# A bounded cache

Entries are kept in the order in which their keys came in.  When a new key comes
into a full cache, the oldest entry goes.  A key that is there already keeps its
place and takes the new value.

An entry may hold no value.  It takes up room, but looking it up is a miss.
-/

namespace CssTrim

/-- A cache of values. -/
structure Cache (α : Type) where
  /-- The number of entries at which a cache is full. -/
  limit : Int := 256
  entries : List (Text × Option α) := []

namespace Cache

variable {α : Type}

/-- How an entry cannot be set. -/
inductive Error where
  /-- The cache is full although it holds nothing. -/
  | nothingToEvict
  deriving DecidableEq

/-- A record of one lookup. -/
structure Lookup where
  key : Text
  hit : Bool
  deriving DecidableEq

/-- What a log says about a lookup.  Only the start of the key is told. -/
def Lookup.message (l : Lookup) : Text :=
  "Cache ".toList ++ (if l.hit then "hit" else "miss").toList ++ " for key: ".toList ++ l.key.take 12

/-- Whether a cache has an entry with this key. -/
def hasKey (c : Cache α) (key : Text) : Bool := c.entries.any (·.1 == key)

/-- The value of a key. -/
def get? (c : Cache α) (key : Text) : Option α := (c.entries.find? (·.1 == key)).bind (·.2)

/-- The record of looking a key up. -/
def lookup (c : Cache α) (key : Text) : Lookup := ⟨key, (c.get? key).isSome⟩

/-- Whether a new key needs room. -/
def isFull (c : Cache α) : Bool := (c.entries.length : Int) ≥ c.limit

/-- Changes the value of a key that is there. -/
def replace (key : Text) (value : Option α) : List (Text × Option α) → List (Text × Option α)
  | [] => []
  | (k, v) :: rest => if k = key then (k, value) :: rest else (k, v) :: replace key value rest

/-- Sets the value of a key. -/
def set (c : Cache α) (key : Text) (value : Option α) : Except Error (Cache α) :=
  if c.hasKey key then .ok { c with entries := replace key value c.entries }
  else if c.isFull then
    match c.entries with
    | [] => .error .nothingToEvict
    | _ :: younger => .ok { c with entries := younger ++ [(key, value)] }
  else .ok { c with entries := c.entries ++ [(key, value)] }

/-- What came of asking for a value that can be computed. -/
structure Answer (α : Type) where
  value : Option α
  /-- Whether the value had to be computed. -/
  computed : Bool

/-- The value of a key, computed and set if it is not there. -/
def cached (c : Cache α) (key : Text) (compute : Unit → Option α) :
    Except Error (Cache α × Answer α) :=
  match c.get? key with
  | some value => .ok (c, ⟨some value, false⟩)
  | none =>
    let value := compute ()
    (c.set key value).map fun c' => (c', ⟨value, true⟩)

end Cache

end CssTrim
