import CssTrim.Folder
import CssTrim.Whitelist
import Mathlib.Data.List.Basic

/-!
# What becomes of a whitelist

A whitelist is read in stages: its octets are decoded, its text is read as a JSON
document, the document has to be an object, and each of three fields of the object
has to be a collection.  A fault in one stage either stops everything or leaves the
whitelist without entries, and `Stops` and `PassedOver` say which.

* Collections.  `entriesOf_cases` puts the three fields together.
* Stages.  `read_cases` says that there are no other faults than those named, and
  `read_eq_error_iff` that those of `Stops` are exact.
-/

namespace CssTrim.Whitelist

/-! ## Faults -/

/-- The names of the fields that hold entries. -/
def fieldNames : List Text := [classesField, idsField, selectorsField]

/-- The field with this name is there and is no collection. -/
def IsNoCollection (key : Text) (fields : List (Text × Value)) : Prop :=
  ∃ v, Value.field? key fields = some v ∧ v.items? = none

/-- The faults of a file that stop everything. -/
inductive Stops (depth : Text → Nat) (bytes : List UInt8) : Error → Prop where
  | undecodable (h : Text.Utf8.decode? bytes = none) : Stops depth bytes .undecodable
  | tooManyDigits {t : Text} {count : Nat} (h : Text.Utf8.decode? bytes = some t)
      (hread : document depth t = .error (.tooManyDigits count)) :
      Stops depth bytes (.tooManyDigits count)
  | tooDeep {t : Text} (h : Text.Utf8.decode? bytes = some t)
      (hread : document depth t = .error .tooDeep) : Stops depth bytes .tooDeep
  | notACollection {t : Text} {fields : List (Text × Value)}
      (h : Text.Utf8.decode? bytes = some t)
      (hread : document depth t = .ok (.object fields))
      (hfield : ∃ key ∈ fieldNames, IsNoCollection key fields) : Stops depth bytes .notACollection

/-- The file has half of a surrogate pair on its own.  No text can hold it, so nothing is said about
what such a whitelist keeps. -/
def HasHalfPair (depth : Text → Nat) (bytes : List UInt8) : Prop :=
  ∃ t, Text.Utf8.decode? bytes = some t ∧ document depth t = .error .halfPair

/-- The faults of what the path of a whitelist leads to that leave the whitelist without entries. -/
inductive PassedOver (depth : Text → Nat) : Folder.Node → Fault → Prop where
  | directory : PassedOver depth .directory .directory
  | malformed {bytes : List UInt8} {t : Text} (h : Text.Utf8.decode? bytes = some t)
      (hread : document depth t = .error .malformed) :
      PassedOver depth (.file bytes) .malformed
  | notAnObject {bytes : List UInt8} {t : Text} {v : Value} (h : Text.Utf8.decode? bytes = some t)
      (hread : document depth t = .ok v) (hv : ∀ fields, v ≠ .object fields) :
      PassedOver depth (.file bytes) .notAnObject

/-! ## Collections -/

/-- A field without items is an error of one kind only. -/
theorem itemsOf_cases (key : Text) (fields : List (Text × Value)) :
    (IsNoCollection key fields ∧ itemsOf key fields = .error .notACollection) ∨
      (¬ IsNoCollection key fields ∧ ∃ items, itemsOf key fields = .ok items) := by
  rw [itemsOf]
  cases hfield : Value.field? key fields with
  | none => exact .inr ⟨by simp [IsNoCollection, hfield], _, rfl⟩
  | some v =>
    cases hitems : v.items? with
    | none => exact .inl ⟨⟨v, hfield, hitems⟩, by simp only [hitems]⟩
    | some items =>
      exact .inr ⟨by simp [IsNoCollection, hfield, hitems], items, by simp only [hitems]⟩

/-- An object has entries unless one of the fields is no collection. -/
theorem entriesOf_cases (fields : List (Text × Value)) :
    ((∃ key ∈ fieldNames, IsNoCollection key fields) ∧
        entriesOf fields = .error .notACollection) ∨
      ((∀ key ∈ fieldNames, ¬ IsNoCollection key fields) ∧
        ∃ entries, entriesOf fields = .ok entries) := by
  simp only [fieldNames, List.mem_cons, List.not_mem_nil, or_false, exists_eq_or_imp,
    exists_eq_left, forall_eq_or_imp, forall_eq, entriesOf]
  rcases itemsOf_cases classesField fields with ⟨hclasses, heq⟩ | ⟨hclasses, classes, heq⟩
  · exact .inl ⟨.inl hclasses, by rw [heq]; rfl⟩
  rcases itemsOf_cases idsField fields with ⟨hids, heq'⟩ | ⟨hids, ids, heq'⟩
  · exact .inl ⟨.inr (.inl hids), by rw [heq, heq']; rfl⟩
  rcases itemsOf_cases selectorsField fields with ⟨hselectors, heq''⟩ |
    ⟨hselectors, selectors, heq''⟩
  · exact .inl ⟨.inr (.inr hselectors), by rw [heq, heq', heq'']; rfl⟩
  · exact .inr ⟨⟨hclasses, hids, hselectors⟩, _, by rw [heq, heq', heq'']; rfl⟩

/-! ## Stages -/

section Stages

variable {depth : Text → Nat} {bytes : List UInt8}

/-- **What reading can come to.**  A file whose text can be held is refused, passed over or has
entries. -/
theorem read_cases (hpairs : ¬ HasHalfPair depth bytes) :
    (∃ err, Stops depth bytes err ∧ read depth bytes = .error err) ∨
      (∃ fault, PassedOver depth (.file bytes) fault ∧
        read depth bytes = .ok (.error fault)) ∨
      ∃ entries, read depth bytes = .ok (.ok entries) := by
  rw [read]
  cases hdecode : Text.Utf8.decode? bytes with
  | none => exact .inl ⟨_, .undecodable hdecode, rfl⟩
  | some t =>
    dsimp only
    cases hread : document depth t with
    | error err =>
      cases err with
      | malformed => exact .inr (.inl ⟨_, .malformed hdecode hread, rfl⟩)
      | tooManyDigits count => exact .inl ⟨_, .tooManyDigits hdecode hread, rfl⟩
      | tooDeep => exact .inl ⟨_, .tooDeep hdecode hread, rfl⟩
      | halfPair => exact absurd ⟨t, hdecode, hread⟩ hpairs
    | ok v =>
      cases v with
      | object fields =>
        rcases entriesOf_cases fields with ⟨hfields, heq⟩ | ⟨-, entries, heq⟩
        · exact .inl ⟨_, .notACollection hdecode hread hfields, by simp only [heq]; rfl⟩
        · exact .inr (.inr ⟨entries, by simp only [heq]; rfl⟩)
      | _ => exact .inr (.inl ⟨_, .notAnObject hdecode hread (by simp), rfl⟩)

theorem Stops.read_eq {err : Error} (h : Stops depth bytes err) :
    read depth bytes = .error err := by
  cases h with
  | undecodable hdecode => rw [read, hdecode]
  | tooManyDigits hdecode hread => simp only [read, hdecode, hread]
  | tooDeep hdecode hread => simp only [read, hdecode, hread]
  | @notACollection t fields hdecode hread hfields =>
    obtain ⟨key, hkey, hnone⟩ := hfields
    rcases entriesOf_cases fields with ⟨-, heq⟩ | ⟨hall, -⟩
    · simp only [read, hdecode, hread, heq]
      rfl
    · exact absurd hnone (hall key hkey)

theorem PassedOver.read_eq {fault : Fault} (h : PassedOver depth (.file bytes) fault) :
    read depth bytes = .ok (.error fault) := by
  cases h with
  | malformed hdecode hread => simp only [read, hdecode, hread]
  | @notAnObject _ t v hdecode hread hv =>
    cases v with
    | object fields => exact absurd rfl (hv fields)
    | _ => simp only [read, hdecode, hread]

theorem read_eq_error_iff (hpairs : ¬ HasHalfPair depth bytes) {err : Error} :
    read depth bytes = .error err ↔ Stops depth bytes err := by
  refine ⟨fun h => ?_, Stops.read_eq⟩
  rcases read_cases hpairs with ⟨err', hstops, heq⟩ | ⟨fault, -, heq⟩ | ⟨entries, heq⟩
  · cases heq.symm.trans h
    exact hstops
  · cases heq.symm.trans h
  · cases heq.symm.trans h

end Stages

end CssTrim.Whitelist
