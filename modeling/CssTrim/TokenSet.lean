import CssTrim.Text

/-!
# Sets of tokens

A set of texts, kept as its members in increasing order by code point.  The
order is strict, so no member occurs twice and two sets with the same members
are equal.

* `mem_insert` and `mem_union` say what the operations do to the members.
* `ext` says that the members determine the set.
-/

namespace CssTrim

/-- A finite set of texts, in increasing order. -/
structure TokenSet where
  toList : List Text
  increasing : toList.Pairwise (· < ·)
  deriving DecidableEq

namespace TokenSet

/-! ## Order of texts -/

theorem lt_of_not_lt {s t : Text} (h : ¬ t < s) (hne : t ≠ s) : s < t :=
  Decidable.byContradiction fun hst =>
    hne (List.le_antisymm (List.not_lt.1 hst) (List.not_lt.1 h))

/-! ## Building sets -/

/-- Puts a text at its place in an increasing list, unless it is there. -/
def place (t : Text) : List Text → List Text
  | [] => [t]
  | s :: rest => if t < s then t :: s :: rest else if t = s then s :: rest else s :: place t rest

theorem mem_place {a t : Text} {ts : List Text} : a ∈ place t ts ↔ a = t ∨ a ∈ ts := by
  induction ts with
  | nil => simp [place]
  | cons s rest ih =>
    unfold place
    split
    · simp
    · split
      · simp_all
      · simp only [List.mem_cons, ih]
        exact or_left_comm

theorem increasing_place (t : Text) {ts : List Text} (h : ts.Pairwise (· < ·)) :
    (place t ts).Pairwise (· < ·) := by
  induction ts with
  | nil => simp [place]
  | cons s rest ih =>
    obtain ⟨hs, hrest⟩ := List.pairwise_cons.1 h
    unfold place
    split
    · rename_i hts
      refine List.pairwise_cons.2 ⟨fun a ha => ?_, h⟩
      rcases List.mem_cons.1 ha with rfl | ha
      · exact hts
      · exact List.lt_trans hts (hs a ha)
    · split
      · exact h
      · rename_i hts hne
        refine List.pairwise_cons.2 ⟨fun a ha => ?_, ih hrest⟩
        rcases mem_place.1 ha with rfl | ha
        · exact lt_of_not_lt hts hne
        · exact hs a ha

/-- The set without members. -/
def empty : TokenSet := ⟨[], List.Pairwise.nil⟩

instance : EmptyCollection TokenSet := ⟨empty⟩

instance : Inhabited TokenSet := ⟨empty⟩

/-- The set with one more member. -/
def insert (t : Text) (s : TokenSet) : TokenSet := ⟨place t s.toList, increasing_place t s.increasing⟩

/-- The set of the texts of a list. -/
def ofList (ts : List Text) : TokenSet := ts.foldl (fun s t => s.insert t) empty

/-- The set of the members of either set. -/
def union (s t : TokenSet) : TokenSet := t.toList.foldl (fun s a => s.insert a) s

/-- The number of members. -/
def size (s : TokenSet) : Nat := s.toList.length

/-- Whether there is no member. -/
def isEmpty (s : TokenSet) : Bool := s.toList.isEmpty

/-- Whether a text is a member. -/
def contains (s : TokenSet) (t : Text) : Bool := s.toList.contains t

instance : Membership Text TokenSet := ⟨fun s t => t ∈ s.toList⟩

/-! ## Members -/

theorem mem_iff {s : TokenSet} {t : Text} : t ∈ s ↔ t ∈ s.toList := Iff.rfl

@[simp] theorem contains_iff {s : TokenSet} {t : Text} : s.contains t = true ↔ t ∈ s := by
  simp [contains, mem_iff]

@[simp] theorem not_mem_empty (t : Text) : ¬ t ∈ empty := by
  simp [mem_iff, empty]

@[simp] theorem mem_insert {s : TokenSet} {a t : Text} : a ∈ s.insert t ↔ a = t ∨ a ∈ s :=
  mem_place

theorem mem_foldl_insert {ts : List Text} {s : TokenSet} {a : Text} :
    a ∈ ts.foldl (fun s t => s.insert t) s ↔ a ∈ ts ∨ a ∈ s := by
  induction ts generalizing s with
  | nil => simp
  | cons t rest ih =>
    rw [List.foldl_cons, ih, mem_insert, List.mem_cons]
    exact or_left_comm.trans or_assoc.symm

@[simp] theorem mem_ofList {ts : List Text} {a : Text} : a ∈ ofList ts ↔ a ∈ ts := by
  simp [ofList, mem_foldl_insert]

@[simp] theorem mem_union {s t : TokenSet} {a : Text} : a ∈ s.union t ↔ a ∈ s ∨ a ∈ t := by
  rw [union, mem_foldl_insert, ← mem_iff]
  exact or_comm

theorem eq_of_mem_iff {xs ys : List Text} (hx : xs.Pairwise (· < ·)) (hy : ys.Pairwise (· < ·))
    (h : ∀ a, a ∈ xs ↔ a ∈ ys) : xs = ys := by
  induction xs generalizing ys with
  | nil =>
    cases ys with
    | nil => rfl
    | cons y rest => exact absurd ((h y).2 List.mem_cons_self) List.not_mem_nil
  | cons x xs ih =>
    cases ys with
    | nil => exact absurd ((h x).1 List.mem_cons_self) List.not_mem_nil
    | cons y ys =>
      obtain ⟨hx₁, hx₂⟩ := List.pairwise_cons.1 hx
      obtain ⟨hy₁, hy₂⟩ := List.pairwise_cons.1 hy
      have hxy : x = y := by
        rcases List.mem_cons.1 ((h x).1 List.mem_cons_self) with e | hxs
        · exact e
        · rcases List.mem_cons.1 ((h y).2 List.mem_cons_self) with e | hys
          · exact e.symm
          · exact absurd (hx₁ y hys) (List.lt_asymm (hy₁ x hxs))
      subst hxy
      refine congrArg _ (ih hx₂ hy₂ fun a => ⟨fun ha => ?_, fun ha => ?_⟩)
      · rcases List.mem_cons.1 ((h a).1 (List.mem_cons_of_mem _ ha)) with rfl | h'
        · exact absurd (hx₁ a ha) (List.lt_irrefl a)
        · exact h'
      · rcases List.mem_cons.1 ((h a).2 (List.mem_cons_of_mem _ ha)) with rfl | h'
        · exact absurd (hy₁ a ha) (List.lt_irrefl a)
        · exact h'

/-- The members determine the set. -/
theorem ext {s t : TokenSet} (h : ∀ a, a ∈ s ↔ a ∈ t) : s = t := by
  obtain ⟨xs, hx⟩ := s
  obtain ⟨ys, hy⟩ := t
  obtain rfl : xs = ys := eq_of_mem_iff hx hy h
  rfl

end TokenSet

end CssTrim
