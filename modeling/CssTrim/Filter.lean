import CssTrim.Classify

/-!
# Filtering a list of blocks

Every block of a list is decided on its own, so the blocks that are kept stay in
their order.  Passthrough and malformed blocks are always kept.
-/

namespace CssTrim

/-- The blocks of a list, each with what becomes of it. -/
structure Filtered where
  decisions : List (Block × Classification)

namespace Judge

/-- What becomes of a block of a list. -/
def decide (j : Judge) (b : Block) : Classification :=
  if b.passthrough || b.malformed then { keep := true } else j.classify b

/-- Decides the blocks of a list. -/
def filter (j : Judge) (bs : List Block) : Filtered := ⟨bs.map fun b => (b, j.decide b)⟩

end Judge

namespace Filtered

/-- Whether each block is kept. -/
def kept (f : Filtered) : List Bool := f.decisions.map (·.2.keep)

/-- The blocks that are kept. -/
def retained (f : Filtered) : List Block := (f.decisions.filter (·.2.keep)).map (·.1)

/-- The blocks that are dropped. -/
def removed (f : Filtered) : List Block := (f.decisions.filter (!·.2.keep)).map (·.1)

/-- The alternatives that were rejected, in the order of the blocks. -/
def rejected (f : Filtered) : List Text := f.decisions.flatMap (·.2.rejected)

end Filtered

end CssTrim
