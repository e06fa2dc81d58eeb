import CssTrim.Text

/-!
# Environments

Named variables with texts as values.  A variable that is there already is not
changed by others that are added.
-/

namespace CssTrim

/-- Variables and their values.  Of two variables with one name the first counts. -/
structure Environment where
  bindings : List (Text × Text) := []

namespace Environment

/-- The value of a variable. -/
def get? (e : Environment) (name : Text) : Option Text :=
  (e.bindings.find? (·.1 == name)).map (·.2)

/-- The environment with further variables. -/
def addMissing (e : Environment) (others : List (Text × Text)) : Environment :=
  ⟨e.bindings ++ others⟩

end Environment

end CssTrim
