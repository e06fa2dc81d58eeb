import CssTrim.Proofs.Whitelist
import CssTrim.Settings.Load

/-!
# When settings are loaded

Loading passes over a whitelist without entries and over patterns that are badly
written, and tells of them.  It stops at anything else that is wrong.

* Patterns.  `checkPatterns_fst_eq_ok_iff` is the induction over the entries, and
  `exists_ofEnvironment_outcome_iff` what follows for the settings.
* The whitelist.  `StopsAt` says at which whitelists loading stops, and
  `whitelistEntries_cases` that it reads all others.
* Loading.  `load_outcome` says exactly when there are settings, and what becomes of
  a whitelist that is passed over.

All of it holds on any system: how files with variables are read, how deep a
whitelist may go, which paths are refused and what patterns mean is up to the
loader.
-/

namespace CssTrim.Settings

/-! ## Patterns -/

section Patterns

variable (h : Pattern.Host)

/-- An entry that is a pattern with a fault that is not passed over. -/
def IsFatal (entry : Text) : Prop :=
  ∃ err, patternError? h entry = some err ∧ err.fault.isFatal = true

theorem checkPatterns_fst_eq_ok_iff (entries : List (Text × Text)) :
    (checkPatterns h entries).1 = .ok () ↔ ∀ x ∈ entries, ¬ IsFatal h x.2 := by
  induction entries with
  | nil => simp [checkPatterns]
  | cons x entries ih =>
    obtain ⟨list, entry⟩ := x
    rw [List.forall_mem_cons, checkPatterns]
    cases herror : patternError? h entry with
    | none => simp [ih, IsFatal, herror]
    | some err =>
      cases hfatal : err.fault.isFatal with
      | true => simp [hfatal, IsFatal, herror]
      | false => simp [hfatal, ih, IsFatal, herror]

/-- The entries that are checked for patterns. -/
def checkedEntries (e : Environment) (whitelisted : List Text) : List Text :=
  listOf e "CSS_SAFELIST".toList ++ whitelisted ++ listOf e "CSS_BLOCKLIST".toList

/-- There are settings unless an entry is a fatal pattern. -/
theorem exists_ofEnvironment_outcome_iff {e : Environment} {whitelisted : List Text} :
    (∃ s, (ofEnvironment h e whitelisted).outcome = .ok s) ↔
      ∀ entry ∈ checkedEntries e whitelisted, ¬ IsFatal h entry := by
  have hchecked := checkPatterns_fst_eq_ok_iff h
    ((listOf e "CSS_SAFELIST".toList ++ whitelisted).map ("safelist".toList, ·) ++
      (listOf e "CSS_BLOCKLIST".toList).map ("blocklist".toList, ·))
  rw [List.forall_mem_append, List.forall_mem_map, List.forall_mem_map, ← List.forall_mem_append]
    at hchecked
  rw [checkedEntries, ← hchecked, ofEnvironment]
  dsimp only
  split
  · rename_i err hcheck
    exact iff_of_false (fun ⟨_, hs⟩ => nomatch hs) fun hok => nomatch hcheck.symm.trans hok
  · rename_i hcheck
    exact iff_of_true ⟨_, rfl⟩ hcheck

end Patterns

/-! ## The whitelist -/

section Whitelist

variable {l : Loader} {f : Folder} {path : Path}

/-- What stops loading at the path of a whitelist. -/
inductive StopsAt (l : Loader) (f : Folder) (path : Path) : LoadError → Prop where
  | path (h : l.refuses f path = true) : StopsAt l f path .refusedPath
  | file {bytes : List UInt8} {err : Whitelist.Error} (hpath : l.refuses f path = false)
      (hfind : f.find? path = some (.file bytes)) (h : Whitelist.Stops l.depth bytes err) :
      StopsAt l f path (.whitelist err)

theorem StopsAt.whitelistEntries_eq {err : LoadError} (h : StopsAt l f path err) :
    whitelistEntries l f path = .error err := by
  cases h with
  | path h => rw [whitelistEntries, if_pos h]
  | file hpath hfind h => simp [whitelistEntries, hpath, hfind, h.read_eq]

theorem whitelistEntries_of_passedOver {node : Folder.Node} {fault : Whitelist.Fault}
    (hpath : l.refuses f path = false) (hfind : f.find? path = some node)
    (hpassed : Whitelist.PassedOver l.depth node fault) :
    whitelistEntries l f path = .ok ([], [.whitelist path fault]) := by
  cases node with
  | directory =>
    cases hpassed
    simp [whitelistEntries, hpath, hfind]
  | file bytes => simp [whitelistEntries, hpath, hfind, hpassed.read_eq]

/-- **What the path of a whitelist can lead to.**  Loading goes on unless something stops it
there. -/
theorem whitelistEntries_cases
    (hpairs : ∀ bytes, f.find? path = some (.file bytes) →
      ¬ Whitelist.HasHalfPair l.depth bytes) :
    (∃ err, StopsAt l f path err ∧ whitelistEntries l f path = .error err) ∨
      (∀ err, ¬ StopsAt l f path err) ∧
        ∃ entries told, whitelistEntries l f path = .ok (entries, told) := by
  have hnot : ∀ {found}, whitelistEntries l f path = .ok found → ∀ err, ¬ StopsAt l f path err :=
    fun hok err hstops => nomatch hstops.whitelistEntries_eq.symm.trans hok
  cases hpath : l.refuses f path with
  | true => exact .inl ⟨_, .path hpath, (StopsAt.path hpath).whitelistEntries_eq⟩
  | false =>
    cases hfind : f.find? path with
    | none =>
      have hok : whitelistEntries l f path = .ok ([], []) := by
        simp [whitelistEntries, hpath, hfind]
      exact .inr ⟨hnot hok, _, _, hok⟩
    | some node =>
      cases node with
      | directory =>
        have hok := whitelistEntries_of_passedOver hpath hfind .directory
        exact .inr ⟨hnot hok, _, _, hok⟩
      | file bytes =>
        rcases Whitelist.read_cases (hpairs bytes hfind) with ⟨err, hstops, -⟩ |
          ⟨fault, hpassed, -⟩ | ⟨entries, hread⟩
        · have hstops := StopsAt.file hpath hfind hstops
          exact .inl ⟨_, hstops, hstops.whitelistEntries_eq⟩
        · have hok := whitelistEntries_of_passedOver hpath hfind hpassed
          exact .inr ⟨hnot hok, _, _, hok⟩
        · have hok : whitelistEntries l f path = .ok (entries, []) := by
            simp [whitelistEntries, hpath, hfind, hread]
          exact .inr ⟨hnot hok, _, _, hok⟩

/-- The entries that the whitelist adds. -/
def whitelisted (l : Loader) (e : Environment) (f : Folder) (path : Option Text) : List Text :=
  match (whitelistPath? e path).map fun p => whitelistEntries l f (.ofText p) with
  | some (.ok (entries, _)) => entries
  | _ => []

end Whitelist

/-! ## Loading -/

/-- What is loaded, with notices in front of the others. -/
def Loaded.behind (told : List Notice) (loaded : Loaded) : Loaded :=
  { loaded with notices := told ++ loaded.notices }

section Extended

variable {l : Loader} {e e' : Environment} {f : Folder} {envFile path : Option Text} {p : Text}

theorem load_of_error {err : LoadError} (hextend : l.extend e f envFile = .ok e')
    (hpath : whitelistPath? e' path = some p)
    (hread : whitelistEntries l f (.ofText p) = .error err) :
    load l e f envFile path = { outcome := .error err } := by
  simp only [load, hextend, hpath, Option.map_some, hread]

theorem load_of_ok {entries : List Text} {told : List Notice}
    (hextend : l.extend e f envFile = .ok e') (hpath : whitelistPath? e' path = some p)
    (hread : whitelistEntries l f (.ofText p) = .ok (entries, told)) :
    load l e f envFile path = (ofEnvironment l.patterns e' entries).behind told := by
  simp only [load, hextend, hpath, Option.map_some, hread]
  rfl

theorem load_of_no_path (hextend : l.extend e f envFile = .ok e')
    (hpath : whitelistPath? e' path = none) :
    load l e f envFile path = ofEnvironment l.patterns e' [] := by
  simp only [load, hextend, hpath, Option.map_none]

theorem whitelisted_of_ok {entries : List Text} {told : List Notice}
    (hpath : whitelistPath? e path = some p)
    (hread : whitelistEntries l f (.ofText p) = .ok (entries, told)) :
    whitelisted l e f path = entries := by
  simp only [whitelisted, hpath, Option.map_some, hread]

theorem whitelisted_of_no_path (hpath : whitelistPath? e path = none) :
    whitelisted l e f path = [] := by
  simp only [whitelisted, hpath, Option.map_none]

theorem exists_load_outcome_iff (hextend : l.extend e f envFile = .ok e')
    (hpairs : ∀ p bytes, whitelistPath? e' path = some p →
      f.find? (.ofText p) = some (.file bytes) → ¬ Whitelist.HasHalfPair l.depth bytes) :
    (∃ s, (load l e f envFile path).outcome = .ok s) ↔
      (∀ p err, whitelistPath? e' path = some p → ¬ StopsAt l f (.ofText p) err) ∧
      ∀ entry ∈ checkedEntries e' (whitelisted l e' f path), ¬ IsFatal l.patterns entry := by
  cases hpath : whitelistPath? e' path with
  | none =>
    rw [load_of_no_path hextend hpath, whitelisted_of_no_path hpath,
      exists_ofEnvironment_outcome_iff, and_iff_right nofun]
  | some p =>
    rcases whitelistEntries_cases (hpairs p · hpath) with ⟨err, hstops, hread⟩ |
      ⟨hnot, entries, told, hread⟩
    · rw [load_of_error hextend hpath hread]
      exact iff_of_false nofun fun hall => hall.1 p err rfl hstops
    · have hwhitelist : ∀ q err, some p = some q → ¬ StopsAt l f (.ofText q) err := by
        rintro q err heq
        cases heq
        exact hnot err
      rw [load_of_ok hextend hpath hread, whitelisted_of_ok hpath hread, and_iff_right hwhitelist,
        ← exists_ofEnvironment_outcome_iff]
      rfl

end Extended

/-- The whitelist that is loaded has half of a surrogate pair on its own. -/
def MeetsHalfPair (l : Loader) (e : Environment) (f : Folder) (envFile path : Option Text) : Prop :=
  ∃ e' p bytes, l.extend e f envFile = .ok e' ∧ whitelistPath? e' path = some p ∧
    f.find? (.ofText p) = some (.file bytes) ∧ Whitelist.HasHalfPair l.depth bytes

/-- **When there are settings.**  They are loaded exactly when the file with variables can be used,
nothing stops loading at the whitelist, and no entry is a fatal pattern.  A whitelist that is passed
over is told of and leaves the settings of the environment.  Nothing is said about a whitelist that
no text can hold. -/
theorem load_outcome (l : Loader) (e : Environment) (f : Folder) (envFile path : Option Text)
    (hpairs : ¬ MeetsHalfPair l e f envFile path) :
    ((∃ s, (load l e f envFile path).outcome = .ok s) ↔
      ∃ e', l.extend e f envFile = .ok e' ∧
        (∀ p err, whitelistPath? e' path = some p → ¬ StopsAt l f (.ofText p) err) ∧
        ∀ entry ∈ checkedEntries e' (whitelisted l e' f path), ¬ IsFatal l.patterns entry) ∧
    ∀ e' p node fault, l.extend e f envFile = .ok e' → whitelistPath? e' path = some p →
      l.refuses f (.ofText p) = false → f.find? (.ofText p) = some node →
        Whitelist.PassedOver l.depth node fault →
          load l e f envFile path =
            (ofEnvironment l.patterns e' []).behind [.whitelist (.ofText p) fault] := by
  constructor
  · cases hextend : l.extend e f envFile with
    | error err =>
      have hload : load l e f envFile path = { outcome := .error err } := by
        simp only [load, hextend]
      rw [hload]
      exact iff_of_false (fun ⟨_, hs⟩ => nomatch hs) fun ⟨_, he, _⟩ => nomatch he
    | ok e' =>
      rw [exists_load_outcome_iff hextend fun p bytes hpath hfind hhalf =>
        hpairs ⟨e', p, bytes, hextend, hpath, hfind, hhalf⟩]
      constructor
      · exact fun h => ⟨e', rfl, h⟩
      · rintro ⟨_, he, h⟩
        cases he
        exact h
  · intro e' p node fault hextend hpath hrefuses hfind hpassed
    exact load_of_ok hextend hpath (whitelistEntries_of_passedOver hrefuses hfind hpassed)

/-- A directory at the path of the whitelist is told of. -/
theorem load_outcome_directory :
    let f : Folder := { nodes := [([['w']], .directory)] }
    ¬ MeetsHalfPair {} {} f none (some ['w']) ∧
      load {} {} f none (some ['w']) =
        (ofEnvironment {} {} []).behind [.whitelist (.ofText ['w']) .directory] := by
  intro f
  have hpairs : ¬ MeetsHalfPair {} {} f none (some ['w']) := by
    rintro ⟨e', p, bytes, hextend, hpath, hfind, -⟩
    cases hpath
    exact nomatch hfind
  exact ⟨hpairs, (load_outcome {} {} f none (some ['w']) hpairs).2 {} ['w'] .directory .directory
    rfl rfl (by decide +kernel) rfl .directory⟩

/-- There are no settings when the whitelist is a single octet that is no text. -/
theorem load_undecodable :
    ¬ ∃ s, (load {} {} { nodes := [([['w']], .file [0xff])] } none (some ['w'])).outcome =
      .ok s := by
  have hdecode : Text.Utf8.decode? [0xff] = none := by
    simp [Text.Utf8.decode?, Text.Utf8.front, Text.Utf8.following?]
  have hread : StopsAt {} { nodes := [([['w']], .file [0xff])] } (.ofText ['w'])
      (.whitelist .undecodable) :=
    .file (by decide +kernel) rfl (.undecodable hdecode)
  rw [load_of_error (p := ['w']) rfl rfl hread.whitelistEntries_eq]
  rintro ⟨s, hs⟩
  cases hs

end CssTrim.Settings
