import CssTrim.Folder
import Mathlib.Data.List.Basic

/-!
# What writing a file changes

A file that is written holds the octets of its text, and nothing else changes: a
path leads where it led before, and every other file keeps its octets.  There are
three groups.

* Nodes: what `put` does to the node at a place, and to those at other places.
* One write.  `place?_of_write?` and `bytes?_of_write?_of_ne` say what stays, and
  `bytes?_of_write?` what is new.
* Paths.  `place?_withEnding_ne`: an ending leads to another place.
-/

namespace CssTrim.Folder

/-! ## Nodes -/

theorem find?_put_self (place : List Text) (node : Node) (nodes : List (List Text × Node)) :
    (put place node nodes).find? (·.1 == place) = some (place, node) := by
  induction nodes with
  | nil => simp [put]
  | cons first rest ih =>
    obtain ⟨q, old⟩ := first
    rw [put]
    split
    · rename_i hq
      simp [hq]
    · rename_i hq
      rw [List.find?_cons_of_neg (by simpa using hq), ih]

theorem find?_put_of_ne {place q : List Text} (hq : q ≠ place) (node : Node)
    (nodes : List (List Text × Node)) :
    (put place node nodes).find? (·.1 == q) = nodes.find? (·.1 == q) := by
  induction nodes with
  | nil => simp [put, Ne.symm hq]
  | cons first rest ih =>
    obtain ⟨r, old⟩ := first
    rw [put]
    split
    · rename_i hr
      subst hr
      rw [List.find?_cons_of_neg (by simpa using Ne.symm hq),
        List.find?_cons_of_neg (by simpa using Ne.symm hq)]
    · rw [List.find?_cons, List.find?_cons, ih]

/-- Whatever is on the way to a place stays on the way to one. -/
theorem any_put {p : List Text → Bool} {nodes : List (List Text × Node)}
    (h : nodes.any (p ·.1) = true) (place : List Text) (node : Node) :
    (put place node nodes).any (p ·.1) = true := by
  induction nodes with
  | nil => cases h
  | cons first rest ih =>
    obtain ⟨q, old⟩ := first
    rw [List.any_cons, Bool.or_eq_true] at h
    rw [put]
    split
    · rw [List.any_cons, Bool.or_eq_true]
      exact h
    · rw [List.any_cons, Bool.or_eq_true]
      exact h.imp_right ih

/-- The folder with another node at a place. -/
def withNode (f : Folder) (place : List Text) (node : Node) : Folder :=
  { f with nodes := put place node f.nodes }

theorem at?_withNode_self (f : Folder) (place : List Text) (node : Node) :
    (f.withNode place node).at? place = some node := by
  rw [at?, withNode, find?_put_self]

theorem at?_withNode_of_ne {f : Folder} {place q : List Text} (hq : q ≠ place) {old : Node}
    (h : f.at? q = some old) (node : Node) : (f.withNode place node).at? q = some old := by
  rw [at?, withNode, find?_put_of_ne hq]
  rw [at?] at h
  cases hfind : f.nodes.find? (·.1 == q) with
  | some found =>
    rw [hfind] at h
    exact h
  | none =>
    rw [hfind] at h
    dsimp only at h ⊢
    rw [Option.ite_none_right_eq_some] at h ⊢
    refine ⟨?_, h.2⟩
    rw [Bool.or_eq_true] at h ⊢
    exact h.1.imp_right fun hany => any_put (p := (q.isPrefixOf ·)) hany place node

/-! ## One write -/

theorem write?_eq_some_iff {f g : Folder} {p : Path} {t : Text} :
    f.write? p t = some g ↔
      ∃ place, f.place? p = some place ∧ f.isDirectory place = false ∧
        g = f.withNode place (.file (Text.Utf8.encode t)) := by
  rw [write?]
  cases hplace : f.place? p with
  | none => simp
  | some place =>
    cases hdirectory : f.isDirectory place with
    | true => simp [hdirectory]
    | false =>
      simp only [hdirectory, Bool.false_eq_true, if_false]
      constructor
      · intro h
        exact ⟨place, rfl, hdirectory, (Option.some.inj h).symm⟩
      · rintro ⟨target, htarget, -, rfl⟩
        rw [← Option.some.inj htarget]
        rfl

/-- A path is followed through directories only, so more of them lead as far. -/
theorem follow_of_isDirectory {f g : Folder}
    (h : ∀ q, f.isDirectory q = true → g.isDirectory q = true) {place target : List Text}
    {names : List Text} (hfollow : f.follow place names = some target) :
    g.follow place names = some target := by
  induction names generalizing place with
  | nil => exact hfollow
  | cons name names ih =>
    rw [follow, Option.ite_none_right_eq_some] at hfollow ⊢
    exact ⟨h place hfollow.1, ih hfollow.2⟩

/-- A write changes nothing about where a path leads. -/
theorem place?_of_write? {f g : Folder} {p : Path} {t : Text} (h : f.write? p t = some g)
    {q : Path} {place : List Text} (hq : f.place? q = some place) : g.place? q = some place := by
  obtain ⟨target, -, hfile, rfl⟩ := write?_eq_some_iff.1 h
  have hdirectories : ∀ r, f.isDirectory r = true →
      (f.withNode target (.file (Text.Utf8.encode t))).isDirectory r = true := by
    intro r hr
    have hne : r ≠ target := by
      rintro rfl
      rw [hfile] at hr
      cases hr
    rw [isDirectory, decide_eq_true_eq] at hr ⊢
    exact at?_withNode_of_ne hne hr _
  exact follow_of_isDirectory hdirectories hq

theorem bytes?_eq_some_iff {f : Folder} {p : Path} {bytes : List UInt8} :
    f.bytes? p = some bytes ↔
      ∃ place, f.place? p = some place ∧ f.at? place = some (.file bytes) := by
  have hfind : f.bytes? p = some bytes ↔ f.find? p = some (.file bytes) := by
    rw [bytes?]
    split
    · rename_i heq
      rw [heq, Option.some.injEq, Option.some.injEq, Node.file.injEq]
    · rename_i hnone
      constructor
      · intro h
        cases h
      · intro h
        exact absurd h (hnone bytes)
  rw [hfind, find?, Option.bind_eq_some_iff]

/-- A file that is written holds the octets of its text. -/
theorem bytes?_of_write? {f g : Folder} {p : Path} {t : Text} (h : f.write? p t = some g) :
    g.bytes? p = some (Text.Utf8.encode t) := by
  obtain ⟨place, hplace, -, hg⟩ := write?_eq_some_iff.1 h
  refine bytes?_eq_some_iff.2 ⟨place, place?_of_write? h hplace, ?_⟩
  rw [hg, at?_withNode_self]

/-- A file at another place keeps its octets. -/
theorem bytes?_of_write?_of_ne {f g : Folder} {p q : Path} {t : Text} (h : f.write? p t = some g)
    (hne : f.place? q ≠ f.place? p) {bytes : List UInt8} (hq : f.bytes? q = some bytes) :
    g.bytes? q = some bytes := by
  obtain ⟨place, hplace, hat⟩ := bytes?_eq_some_iff.1 hq
  obtain ⟨target, htarget, -, hg⟩ := write?_eq_some_iff.1 h
  refine bytes?_eq_some_iff.2 ⟨place, place?_of_write? h hplace, ?_⟩
  have hplaces : place ≠ target := by
    rintro rfl
    exact hne (hplace.trans htarget.symm)
  rw [hg]
  exact at?_withNode_of_ne hplaces hat _

/-! ## Paths -/

theorem follow_concat_eq_some_iff {f : Folder} {place target : List Text} {names : List Text}
    {name : Text} :
    f.follow place (names ++ [name]) = some target ↔
      ∃ q, f.follow place names = some q ∧ f.isDirectory q = true ∧
        target = if name = "..".toList then q.dropLast else q ++ [name] := by
  induction names generalizing place with
  | nil =>
    have hone : f.follow place [name] =
        if f.isDirectory place then some (if name = "..".toList then place.dropLast
          else place ++ [name]) else none := rfl
    rw [List.nil_append, hone, Option.ite_none_right_eq_some, follow, Option.some.injEq]
    constructor
    · rintro ⟨hplace, htarget⟩
      exact ⟨place, rfl, hplace, htarget.symm⟩
    · rintro ⟨q, hq, hplace, htarget⟩
      obtain rfl := Option.some.inj hq
      exact ⟨hplace, htarget.symm⟩
  | cons first names ih =>
    rw [List.cons_append, follow, follow, Option.ite_none_right_eq_some, ih]
    simp only [Option.ite_none_right_eq_some]
    constructor
    · rintro ⟨hplace, q, hq, hrest⟩
      exact ⟨q, ⟨hplace, hq⟩, hrest⟩
    · rintro ⟨q, ⟨hplace, hq⟩, hrest⟩
      exact ⟨hplace, q, hq, hrest⟩

/-- A path with an ending behind its last name leads to another place.  A name with so long an
ending is not two dots, which would lead back. -/
theorem place?_withEnding_ne {f : Folder} {p : Path} {ending : Text} (hending : 2 < ending.length)
    {place : List Text} (hplace : f.place? (p.withEnding ending) = some place) :
    f.place? (p.withEnding ending) ≠ f.place? p := by
  intro hsame
  rw [hplace] at hsame
  have hdots : p.name ++ ending ≠ "..".toList := by
    intro heq
    have hlength := congrArg List.length heq
    rw [List.length_append] at hlength
    have htwo : "..".toList.length = 2 := rfl
    omega
  obtain ⟨q, hq, -, rfl⟩ := follow_concat_eq_some_iff.1 hplace
  rw [if_neg hdots] at hsame
  rcases List.eq_nil_or_concat p.names with hnil | ⟨front, last, hconcat⟩
  · -- the path has no names and leads to where it starts
    have hstart : some (q ++ [p.name ++ ending]) = some q := by
      rw [hsame, ← hq, place?, hnil]
      rfl
    simp at hstart
  · rw [List.concat_eq_append] at hconcat
    rw [place?, hconcat] at hsame
    obtain ⟨r, hr, -, htarget⟩ := follow_concat_eq_some_iff.1 hsame.symm
    have hname : p.name = last := by rw [Path.name, hconcat, List.getLastD_concat]
    have hfront : p.names.dropLast = front := by rw [hconcat, List.dropLast_concat]
    rw [hfront] at hq
    obtain rfl : q = r := Option.some.inj (hq.symm.trans hr)
    split at htarget
    · have hlength := congrArg List.length htarget
      rw [List.length_append, List.length_dropLast, List.length_singleton] at hlength
      omega
    · rw [List.append_cancel_left_eq, List.singleton_inj, hname] at htarget
      have hlength := congrArg List.length htarget
      rw [List.length_append] at hlength
      omega

end CssTrim.Folder
