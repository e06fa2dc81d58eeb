import CssTrim.Filter
import Mathlib.Data.List.Basic

/-!
# What filtering keeps

Every block of a list is either kept or dropped, and both the blocks that are
kept and those that are dropped stay in their order.
-/

namespace CssTrim.Judge

/-- The blocks that are kept, without the decisions on them. -/
theorem retained_filter (j : Judge) (bs : List Block) :
    (j.filter bs).retained = bs.filter fun b => (j.decide b).keep := by
  rw [filter, Filtered.retained, List.filter_map, List.map_map]
  exact List.map_id _

/-- The blocks that are dropped, without the decisions on them. -/
theorem removed_filter (j : Judge) (bs : List Block) :
    (j.filter bs).removed = bs.filter fun b => !(j.decide b).keep := by
  rw [filter, Filtered.removed, List.filter_map, List.map_map]
  exact List.map_id _

/-- The alternatives that are rejected, block by block. -/
theorem rejected_filter (j : Judge) (bs : List Block) :
    (j.filter bs).rejected = bs.flatMap fun b => (j.decide b).rejected := by
  rw [filter, Filtered.rejected, List.flatMap_map]

theorem retained_sublist (j : Judge) (bs : List Block) :
    (j.filter bs).retained.Sublist bs := by
  rw [retained_filter]
  exact List.filter_sublist

/-- What is kept once is kept again. -/
theorem retained_retained (j : Judge) (bs : List Block) :
    (j.filter (j.filter bs).retained).retained = (j.filter bs).retained := by
  rw [retained_filter, retained_filter, List.filter_filter]
  simp only [Bool.and_self]

/-- No block is lost between what is kept and what is dropped. -/
theorem length_retained_add_length_removed (j : Judge) (bs : List Block) :
    (j.filter bs).retained.length + (j.filter bs).removed.length = bs.length := by
  rw [retained_filter, removed_filter, ← List.length_eq_length_filter_add]

end CssTrim.Judge
