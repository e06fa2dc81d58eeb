import CssTrim.Cache
import Mathlib.Data.List.Nodup

/-!
# Runs of a bounded cache

A run makes one request after another.  A cache that may hold something behaves as
a queue of keys: a new key joins at the end, the oldest one leaves when there is no
room, and nothing else moves.  There are four groups.

* Requests, and what each of them does to the cache.  A request inserts when it
  gives a value to a key that is not there.
* One request.  `perform_of_inserts` and `perform_of_not_inserts` are all that a
  request can do, and `Bounded.perform` the invariant that it keeps.
* The age of an entry.  `HoldsAt` counts the entries behind one, and a request
  makes an entry older only by inserting.
* Runs.  `HoldsAt.run` is the induction, and `run_first_in_first_out` the result.
-/

namespace CssTrim.Cache

variable {α : Type}

/-! ## Requests -/

/-- One use of a cache. -/
inductive Request (α : Type) where
  | set (key : Text) (value : Option α)
  | get (key : Text)
  /-- A value that is computed and set where none is found. -/
  | cached (key : Text) (compute : Unit → Option α)

/-- The key that a request is about. -/
def Request.key : Request α → Text
  | set key _ | get key | cached key _ => key

/-- The cache behind a request. -/
def perform (c : Cache α) : Request α → Except Error (Cache α)
  | .set key value => c.set key value
  | .get _ => .ok c
  | .cached key compute => (c.cached key compute).map (·.1)

/-- The keys of a cache, the oldest one first. -/
def keys (c : Cache α) : List Text := c.entries.map (·.1)

/-- The value that a request gives to its key, if it gives one. -/
def assigned? (c : Cache α) : Request α → Option (Option α)
  | .set _ value => some value
  | .get _ => none
  | .cached key compute => if (c.get? key).isSome then none else some (compute ())

/-- Whether a request puts in a key that is not there. -/
def inserts (c : Cache α) (r : Request α) : Bool := (c.assigned? r).isSome && !c.hasKey r.key

/-- Makes one request after another. -/
def run (c : Cache α) : List (Request α) → Except Error (Cache α)
  | [] => .ok c
  | r :: rest =>
    match c.perform r with
    | .ok c' => run c' rest
    | .error e => .error e

/-- How many requests of a run insert a key. -/
def insertions (c : Cache α) : List (Request α) → Nat
  | [] => 0
  | r :: rest =>
    match c.perform r with
    | .ok c' => (if c.inserts r then 1 else 0) + insertions c' rest
    | .error _ => 0

/-- The value that a key has been given last, if it has had this one before the run. -/
def lastValue (key : Text) (value : Option α) (c : Cache α) : List (Request α) → Option α
  | [] => value
  | r :: rest =>
    match c.perform r with
    | .ok c' =>
      lastValue key (if r.key = key then (c.assigned? r).getD value else value) c' rest
    | .error _ => value

theorem hasKey_iff {c : Cache α} {key : Text} : c.hasKey key = true ↔ key ∈ c.keys := by
  simp [hasKey, keys]

theorem inserts_iff {c : Cache α} {r : Request α} :
    c.inserts r = true ↔ (∃ value, c.assigned? r = some value) ∧ r.key ∉ c.keys := by
  rw [inserts, Bool.and_eq_true, Option.isSome_iff_exists, ← hasKey_iff, Bool.not_eq_true',
    Bool.not_eq_true]

/-- Without repeated keys, looking up a key gives the value of its entry. -/
theorem get?_of_mem {c : Cache α} (hc : c.keys.Nodup) {key : Text} {value : Option α}
    (h : (key, value) ∈ c.entries) : c.get? key = value := by
  obtain ⟨older, newer, hsplit⟩ := List.append_of_mem h
  have hfound : c.entries.find? (·.1 == key) = some (key, value) := by
    rw [keys, hsplit, List.map_append, List.map_cons, List.nodup_append] at hc
    rw [hsplit, List.find?_append]
    have hnone : older.find? (·.1 == key) = none := by
      rw [List.find?_eq_none]
      intro e he heq
      rw [beq_iff_eq] at heq
      exact hc.2.2 e.1 (List.mem_map_of_mem he) key List.mem_cons_self heq
    rw [hnone, Option.none_or, List.find?_cons_of_pos (by simp)]
  rw [get?, hfound]
  rfl

/-- A request does nothing but set the value that it gives. -/
theorem perform_eq (c : Cache α) (r : Request α) :
    c.perform r =
      match c.assigned? r with
      | some value => c.set r.key value
      | none => .ok c := by
  cases r with
  | set => rfl
  | get => rfl
  | cached key compute =>
    simp only [perform, cached, assigned?]
    cases c.get? key with
    | some value => rfl
    | none =>
      show ((c.set key (compute ())).map _).map _ = c.set key (compute ())
      cases c.set key (compute ()) <;> rfl

/-! ## One request -/

/-- What every request keeps. -/
structure Bounded (c : Cache α) : Prop where
  one_le : 1 ≤ c.limit
  length_le : (c.entries.length : Int) ≤ c.limit
  nodup : c.keys.Nodup

/-- The entries that stay when a new key comes in. -/
def makeRoom (c : Cache α) : List (Text × Option α) :=
  if c.isFull then c.entries.tail else c.entries

/-- An entry behind a request that inserts nothing. -/
def refresh (c : Cache α) (r : Request α) (e : Text × Option α) : Text × Option α :=
  (e.1, if r.key = e.1 then (c.assigned? r).getD e.2 else e.2)

theorem replace_eq_map {es : List (Text × Option α)} (hes : (es.map (·.1)).Nodup) (key : Text)
    (value : Option α) :
    replace key value es = es.map fun e => (e.1, if key = e.1 then value else e.2) := by
  induction es with
  | nil => rfl
  | cons e es ih =>
    obtain ⟨k, v⟩ := e
    rw [List.map_cons, List.nodup_cons] at hes
    rw [replace, List.map_cons]
    split
    · rename_i hkey
      subst hkey
      -- the key does not come again
      have hrest : es.map (fun e => (e.1, if k = e.1 then value else e.2)) = es := by
        conv_rhs => rw [← List.map_id es]
        refine List.map_congr_left fun e he => ?_
        rw [if_neg]
        · rfl
        · intro heq
          exact hes.1 (List.mem_map.2 ⟨e, he, heq.symm⟩)
      rw [if_pos rfl, hrest]
    · rename_i hkey
      rw [if_neg (Ne.symm hkey), ih hes.2]

theorem Bounded.set_of_not_mem {c : Cache α} (hc : c.Bounded) {key : Text} (h : key ∉ c.keys)
    (value : Option α) :
    c.set key value = .ok { c with entries := c.makeRoom ++ [(key, value)] } := by
  rw [set, if_neg (by rwa [hasKey_iff]), makeRoom]
  cases hfull : c.isFull with
  | false => rfl
  | true =>
    have hlimit := hc.one_le
    rw [isFull, decide_eq_true_eq] at hfull
    cases hentries : c.entries with
    | nil =>
      rw [hentries, List.length_nil] at hfull
      omega
    | cons e younger => rfl

/-- A request that inserts puts its key behind all others. -/
theorem Bounded.perform_of_inserts {c : Cache α} (hc : c.Bounded) {r : Request α}
    (h : c.inserts r = true) :
    ∃ value, c.assigned? r = some value ∧
      c.perform r = .ok { c with entries := c.makeRoom ++ [(r.key, value)] } := by
  obtain ⟨⟨value, hvalue⟩, hkey⟩ := inserts_iff.1 h
  refine ⟨value, hvalue, ?_⟩
  rw [perform_eq, hvalue]
  exact hc.set_of_not_mem hkey value

/-- A request that inserts nothing changes no more than the value of its own key. -/
theorem Bounded.perform_of_not_inserts {c : Cache α} (hc : c.Bounded) {r : Request α}
    (h : c.inserts r = false) :
    c.perform r = .ok { c with entries := c.entries.map (c.refresh r) } := by
  rw [perform_eq]
  cases hvalue : c.assigned? r with
  | none =>
    have hsame : c.entries.map (c.refresh r) = c.entries := by
      conv_rhs => rw [← List.map_id c.entries]
      refine List.map_congr_left fun e _ => ?_
      simp [refresh, hvalue]
    rw [hsame]
  | some value =>
    have hkey : c.hasKey r.key = true := by simpa [inserts, hvalue] using h
    simp only [set, hkey, if_true, replace_eq_map hc.nodup]
    simp [refresh, hvalue]

theorem makeRoom_suffix (c : Cache α) : c.makeRoom <:+ c.entries := by
  rw [makeRoom]
  split
  · exact List.tail_suffix _
  · exact List.suffix_rfl

theorem Bounded.length_makeRoom_lt {c : Cache α} (hc : c.Bounded) :
    (c.makeRoom.length : Int) < c.limit := by
  have hlength := hc.length_le
  have hlimit := hc.one_le
  rw [makeRoom]
  cases hfull : c.isFull with
  | true =>
    rw [if_pos rfl, List.length_tail]
    omega
  | false =>
    rw [isFull, decide_eq_false_iff_not] at hfull
    rw [if_neg Bool.false_ne_true]
    omega

theorem keys_map_refresh (c : Cache α) (r : Request α) :
    (c.entries.map (c.refresh r)).map (·.1) = c.keys := by
  rw [List.map_map]
  rfl

/-- **The invariant.**  No request fails, and none makes a cache too large or repeats a key. -/
theorem Bounded.perform {c : Cache α} (hc : c.Bounded) (r : Request α) :
    ∃ c', c.perform r = .ok c' ∧ c'.limit = c.limit ∧ c'.Bounded := by
  cases h : c.inserts r with
  | false =>
    refine ⟨_, hc.perform_of_not_inserts h, rfl, hc.one_le, ?_, ?_⟩
    · rw [List.length_map]
      exact hc.length_le
    · rw [keys, keys_map_refresh]
      exact hc.nodup
  | true =>
    obtain ⟨value, -, hperform⟩ := hc.perform_of_inserts h
    have hroom := c.makeRoom_suffix.sublist.map (·.1)
    refine ⟨_, hperform, rfl, hc.one_le, ?_, ?_⟩
    · have hlt := hc.length_makeRoom_lt
      show ((c.makeRoom ++ [(r.key, value)]).length : Int) ≤ c.limit
      rw [List.length_append, List.length_singleton]
      omega
    · rw [keys, List.map_append, List.map_singleton, ← List.concat_eq_append, List.nodup_concat]
      exact ⟨fun hmem => (inserts_iff.1 h).2 (hroom.subset hmem), hc.nodup.sublist hroom⟩

/-! ## The age of an entry -/

/-- Whether an entry is there with this many entries behind it. -/
def HoldsAt (c : Cache α) (key : Text) (value : Option α) (younger : Nat) : Prop :=
  ∃ older newer, c.entries = older ++ (key, value) :: newer ∧ newer.length = younger

theorem HoldsAt.mem {c : Cache α} {key : Text} {value : Option α} {n : Nat}
    (h : c.HoldsAt key value n) : (key, value) ∈ c.entries := by
  obtain ⟨older, newer, hentries, -⟩ := h
  rw [hentries]
  exact List.mem_append_right older List.mem_cons_self

theorem HoldsAt.mem_keys {c : Cache α} {key : Text} {value : Option α} {n : Nat}
    (h : c.HoldsAt key value n) : key ∈ c.keys :=
  List.mem_map_of_mem h.mem

/-- A request that inserts nothing makes no entry older. -/
theorem HoldsAt.refresh {c : Cache α} {key : Text} {value : Option α} {n : Nat}
    (h : c.HoldsAt key value n) (r : Request α) :
    HoldsAt { c with entries := c.entries.map (c.refresh r) } key
      (if r.key = key then (c.assigned? r).getD value else value) n := by
  obtain ⟨older, newer, hentries, rfl⟩ := h
  refine ⟨older.map (c.refresh r), newer.map (c.refresh r), ?_, List.length_map _⟩
  show c.entries.map (c.refresh r) = _
  rw [hentries, List.map_append, List.map_cons]
  rfl

/-- A new key makes the other entries older by one, as long as they are not the oldest in a full
cache. -/
theorem HoldsAt.insert {c : Cache α} {key : Text} {value : Option α} {n : Nat}
    (h : c.HoldsAt key value n) (hage : (n : Int) + 1 < c.limit) (e : Text × Option α) :
    HoldsAt { c with entries := c.makeRoom ++ [e] } key value (n + 1) := by
  obtain ⟨older, newer, hentries, rfl⟩ := h
  have hroom : ∃ front, c.makeRoom = front ++ (key, value) :: newer := by
    rw [makeRoom]
    split
    · rename_i hfull
      rw [isFull, decide_eq_true_eq, hentries] at hfull
      cases older with
      | nil =>
        simp only [List.nil_append, List.length_cons] at hfull
        omega
      | cons o older => exact ⟨older, by rw [hentries]; rfl⟩
    · exact ⟨older, hentries⟩
  obtain ⟨front, hfront⟩ := hroom
  refine ⟨front, newer ++ [e], ?_, ?_⟩
  · rw [hfront, List.append_assoc, List.cons_append]
  · rw [List.length_append, List.length_singleton]

/-- A new key drives out the entry that has become as old as the cache allows. -/
theorem HoldsAt.not_mem_keys {c : Cache α} (hc : c.Bounded) {key : Text} {value : Option α}
    {n : Nat} (h : c.HoldsAt key value n) (hage : (n : Int) + 1 = c.limit)
    {e : Text × Option α} (he : e.1 ≠ key) :
    key ∉ keys { c with entries := c.makeRoom ++ [e] } := by
  obtain ⟨older, newer, hentries, rfl⟩ := h
  have hlength := hc.length_le
  have hnodup := hc.nodup
  rw [hentries, List.length_append, List.length_cons] at hlength
  obtain rfl : older = [] := List.eq_nil_of_length_eq_zero (by omega)
  have hfull : c.isFull = true := by
    rw [isFull, decide_eq_true_eq, hentries, List.nil_append, List.length_cons]
    omega
  rw [keys, hentries, List.nil_append, List.map_cons, List.nodup_cons] at hnodup
  rw [keys, makeRoom, hfull, if_pos rfl, hentries, List.nil_append, List.tail_cons, List.map_append,
    List.map_singleton, List.mem_append, List.mem_singleton, not_or]
  exact ⟨hnodup.1, he.symm⟩

/-! ## Runs -/

theorem Bounded.run {c : Cache α} (hc : c.Bounded) (rs : List (Request α)) :
    ∃ c', c.run rs = .ok c' ∧ c'.limit = c.limit ∧ c'.Bounded := by
  induction rs generalizing c with
  | nil => exact ⟨c, rfl, rfl, hc⟩
  | cons r rs ih =>
    obtain ⟨c₁, hperform, hlimit, hc₁⟩ := hc.perform r
    obtain ⟨c₂, hrun, hlimit₂, hc₂⟩ := ih hc₁
    refine ⟨c₂, ?_, hlimit₂.trans hlimit, hc₂⟩
    rw [Cache.run, hperform]
    exact hrun

/-- An entry stays as long as fewer keys come in behind it than the cache holds, and every one of
them makes it older by one.  The induction is on the run. -/
theorem HoldsAt.run {c c' : Cache α} (hc : c.Bounded) {key : Text} {value : Option α} {n : Nat}
    (h : c.HoldsAt key value n) {later : List (Request α)} (hrun : c.run later = .ok c')
    (hage : (n : Int) + c.insertions later < c.limit) :
    c'.HoldsAt key (lastValue key value c later) (n + c.insertions later) := by
  induction later generalizing c value n with
  | nil =>
    cases hrun
    exact h
  | cons r later ih =>
    obtain ⟨c₁, hperform, hlimit, hc₁⟩ := hc.perform r
    rw [Cache.run, hperform] at hrun
    simp only [insertions, lastValue, hperform] at hage ⊢
    rw [← hlimit] at hage
    cases hinserts : c.inserts r with
    | false =>
      rw [hinserts, if_neg Bool.false_ne_true, Nat.zero_add] at hage
      rw [if_neg Bool.false_ne_true, Nat.zero_add]
      have hstep := h.refresh r
      rw [hc.perform_of_not_inserts hinserts, Except.ok.injEq] at hperform
      rw [hperform] at hstep
      exact ih hc₁ hstep hrun hage
    | true =>
      rw [hinserts, if_pos rfl] at hage
      have hother : r.key ≠ key := fun heq => (inserts_iff.1 hinserts).2 (heq ▸ h.mem_keys)
      obtain ⟨other, -, hinsert⟩ := hc.perform_of_inserts hinserts
      have hstep := h.insert (by omega) (r.key, other)
      rw [hinsert, Except.ok.injEq] at hperform
      rw [hperform] at hstep
      rw [if_pos rfl, if_neg hother, ← Nat.add_assoc]
      exact ih hc₁ hstep hrun (by omega)

/-- Whether an entry leaves in its turn: it stays, with the value that its key has been given last,
until as many keys have come in behind it as the cache may hold, and goes with the last of them. -/
def LeavesInTurn (c : Cache α) (key : Text) (value : Option α) : Prop :=
  ∀ later, ∃ c', c.run later = .ok c' ∧
    (c.insertions later < c.limit →
      (key, lastValue key value c later) ∈ c'.entries ∧
        c'.get? key = lastValue key value c later) ∧
    ∀ next, c.insertions later + 1 = c.limit → c'.inserts next = true →
      ∃ c'', c'.perform next = .ok c'' ∧ c''.hasKey key = false

theorem HoldsAt.leavesInTurn {c : Cache α} (hc : c.Bounded) {key : Text} {value : Option α}
    (h : c.HoldsAt key value 0) : c.LeavesInTurn key value := by
  intro later
  obtain ⟨c', hrun, hlimit, hc'⟩ := hc.run later
  refine ⟨c', hrun, fun hage => ?_, fun next hage hnext => ?_⟩
  · have hlast := h.run hc hrun (by omega)
    exact ⟨hlast.mem, get?_of_mem hc'.nodup hlast.mem⟩
  · have hlast := h.run hc hrun (by omega)
    obtain ⟨value', -, hperform⟩ := hc'.perform_of_inserts hnext
    have hother : next.key ≠ key := fun heq => (inserts_iff.1 hnext).2 (heq ▸ hlast.mem_keys)
    refine ⟨_, hperform, ?_⟩
    rw [← Bool.not_eq_true, hasKey_iff]
    exact hlast.not_mem_keys hc' (by omega) hother

/-- **First in, first out.**  Behind any run of a cache that may hold something, no request fails,
there are at most as many entries as the cache may hold, and no key comes twice.  A look-up changes
nothing, a request that inserts no key leaves the order of the keys and all other entries as they
are, and a key that comes in leaves in its turn. -/
theorem run_first_in_first_out (limit : Int) (hlimit : 1 ≤ limit) (before : List (Request α)) :
    ∃ c, run { limit } before = .ok c ∧ c.limit = limit ∧ (c.entries.length : Int) ≤ limit ∧
      c.keys.Nodup ∧ (∀ key, c.perform (.get key) = .ok c) ∧
      (∀ r, c.inserts r = false → ∃ c', c.perform r = .ok c' ∧ c'.keys = c.keys ∧
        ∀ e, e.1 ≠ r.key → (e ∈ c'.entries ↔ e ∈ c.entries)) ∧
      ∀ r, c.inserts r = true → ∃ c' value, c.perform r = .ok c' ∧ c.assigned? r = some value ∧
        (r.key, value) ∈ c'.entries ∧ c'.LeavesInTurn r.key value := by
  have hfresh : Bounded { limit, entries := ([] : List (Text × Option α)) } := by
    refine ⟨hlimit, ?_, List.nodup_nil⟩
    show ((0 : Nat) : Int) ≤ limit
    omega
  obtain ⟨c, hrun, hsame, hc⟩ := hfresh.run before
  have hsize := hc.length_le
  rw [hsame] at hsize
  refine ⟨c, hrun, hsame, hsize, hc.nodup, fun _ => rfl, fun r hr => ?_, fun r hr => ?_⟩
  · refine ⟨_, hc.perform_of_not_inserts hr, c.keys_map_refresh r, fun e he => ?_⟩
    have hsame : c.refresh r e = e := by rw [refresh, if_neg (Ne.symm he)]
    constructor
    · intro hmem
      obtain ⟨e', he', rfl⟩ := List.mem_map.1 hmem
      have hother : e'.1 ≠ r.key := he
      rwa [refresh, if_neg (Ne.symm hother)]
    · intro hmem
      rw [← hsame]
      exact List.mem_map_of_mem hmem
  · obtain ⟨c', hperform, -, hc'⟩ := hc.perform r
    obtain ⟨value, hvalue, hinsert⟩ := hc.perform_of_inserts hr
    rw [hperform, Except.ok.injEq] at hinsert
    have hnew : c'.HoldsAt r.key value 0 := by
      rw [hinsert]
      exact ⟨c.makeRoom, [], rfl, rfl⟩
    exact ⟨c', value, hperform, hvalue, hnew.mem, hnew.leavesInTurn hc'⟩

/-- Room for two.  The value of the first key is no value, so that it is computed again and stays
where it is.  The second key outlives it by one insertion, which puts the first one in again. -/
theorem run_first_in_first_out_two :
    let request (f : Text → Request Nat) (key : String) : Request Nat := f key.toList
    let before := [request (.set · none) "a"]
    let first := request (.cached · fun _ => some 1) "b"
    let later := [request (.cached · fun _ => some 2) "a", request (.set · (some 3)) "b",
      request (.set · (some 4)) "c"]
    let next := request (.set · (some 5)) "a"
    (1 : Int) ≤ 2 ∧ ∃ c₁ c₂ c₃ c₄ : Cache Nat, run { limit := 2 } before = .ok c₁ ∧
      c₁.perform first = .ok c₂ ∧ c₂.run later = .ok c₃ ∧ c₃.get? "b".toList = some 3 ∧
        c₃.perform next = .ok c₄ ∧ c₄.hasKey "b".toList = false := by
  intro request before first later next
  have hlimit : (1 : Int) ≤ 2 := by decide
  obtain ⟨c₁, hbefore, -, -, -, -, -, hleaves⟩ := run_first_in_first_out 2 hlimit before
  obtain rfl : _ = c₁ := Except.ok.inj hbefore
  obtain ⟨c₂, value, hfirst, hvalue, -, hturn⟩ := hleaves first rfl
  obtain rfl : _ = c₂ := Except.ok.inj hfirst
  obtain rfl : _ = value := Option.some.inj hvalue
  obtain ⟨c₃, hlater, hstays, hgoes⟩ := hturn later
  obtain rfl : _ = c₃ := Except.ok.inj hlater
  obtain ⟨c₄, hnext, hgone⟩ := hgoes next (by decide) rfl
  exact ⟨hlimit, _, _, _, c₄, hbefore, hfirst, hlater, (hstays (by decide)).2, hnext, hgone⟩

end CssTrim.Cache
