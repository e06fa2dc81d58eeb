import CssTrim.Proofs.Settings.Checked
import CssTrim.Proofs.Settings.Load
import CssTrim.Proofs.Text.Trim

/-!
# Patterns that are told of and patterns that are left out

Loading tells of the entries that are written as patterns and are none, and the
policy leaves out such entries.  Loading looks at an entry as it is given, the
policy at the entry without the blanks around it.

* Entries.  `Entry.fault?_eq` compares the two looks at one entry, and
  `trim_of_mem_listOf` says that the lists of the environment hold no entry with
  blanks around it.
* Hosts.  The policy is made at another time than settings are loaded, and there
  may be more room on the stack, or less.  `patternError?_congr` says that nothing
  else can make a difference to a pattern.
* Settings.  `leftOut` lists what the policy leaves out, and `isAccepted_iff` says
  when there is a policy at all.
* Loading.  `badEntries_load` says what loading tells of: what the policy leaves
  out, but for patterns of the whitelist with blanks around them.
-/

namespace CssTrim

/-! ## Entries -/

/-- The error in an entry that the policy leaves out. -/
def Entry.fault? (h : Pattern.Host) (t : Text) : Option Pattern.Error :=
  match (Entry.text t).meaning h with
  | .badPattern _ e => some e
  | _ => none

namespace Settings

/-- A pattern has no blanks around it. -/
theorem patternSource?_of_trim_ne {t : Text} (h : Text.trim t ≠ t) :
    Entry.patternSource? t = none := by
  rw [Entry.patternSource?, if_neg]
  rintro ⟨hlength, hfirst, hlast⟩
  have hslash : Text.isBlank '/' = false := by decide
  obtain ⟨rest, rfl⟩ := List.head?_eq_some_iff.1 hfirst
  obtain ⟨front, hfront⟩ := List.getLast?_eq_some_iff.1 hlast
  rw [Text.trim_cons hslash, hfront, Text.trimEnd_concat front hslash] at h
  exact h rfl

theorem patternError?_of_trim_ne {h : Pattern.Host} {t : Text} (htrim : Text.trim t ≠ t) :
    patternError? h t = none := by
  rw [patternError?, patternSource?_of_trim_ne htrim]
  rfl

end Settings

/-- The policy looks at an entry without the blanks around it. -/
theorem Entry.fault?_eq (h : Pattern.Host) (t : Text) :
    Entry.fault? h t = Settings.patternError? h (Text.trim t) := by
  rw [Entry.fault?, Entry.meaning, Settings.patternError?]
  cases hempty : (Text.trim t).isEmpty with
  | true =>
    rw [List.isEmpty_iff.1 hempty]
    rfl
  | false =>
    rw [if_neg Bool.false_ne_true]
    cases Entry.patternSource? (Text.trim t) with
    | none => rfl
    | some source =>
      dsimp only [Option.map_some]
      cases Pattern.compile h source <;> rfl

namespace Settings

/-- The entries of a list of the environment have no blanks around them. -/
theorem trim_of_mem_listOf {e : Environment} {name entry : Text} (h : entry ∈ listOf e name) :
    Text.trim entry = entry := by
  obtain ⟨written, -, rfl⟩ := List.mem_map.1 (List.mem_filter.1 h).1
  exact Text.trim_trim written

/-! ## Hosts -/

/-- The entry is a pattern that takes more room on the stack than there is. -/
def Exhausts (h : Pattern.Host) (entry : Text) : Prop :=
  ∃ source, Entry.patternSource? entry = some source ∧ h.exhausts source = true

theorem isFatal_of_exhausts {h : Pattern.Host} {entry : Text} (hroom : Exhausts h entry) :
    IsFatal h entry := by
  obtain ⟨source, hsource, hexhausts⟩ := hroom
  refine ⟨⟨.exhausted, none⟩, ?_, rfl⟩
  rw [patternError?, hsource, Option.map_some, Pattern.compile, if_pos hexhausts]

/-- Two systems that know the same names read a pattern alike, if both have the room for it. -/
theorem patternError?_congr {h h' : Pattern.Host} (hnames : h.named? = h'.named?) {entry : Text}
    (hroom : ¬ Exhausts h entry) (hroom' : ¬ Exhausts h' entry) :
    patternError? h entry = patternError? h' entry := by
  rw [patternError?, patternError?]
  cases hsource : Entry.patternSource? entry with
  | none => rfl
  | some source =>
    have hfits : ¬ h.exhausts source = true := fun hex => hroom ⟨source, hsource, hex⟩
    have hfits' : ¬ h'.exhausts source = true := fun hex => hroom' ⟨source, hsource, hex⟩
    rw [Option.map_some, Option.map_some, Pattern.compile, Pattern.compile, if_neg hfits,
      if_neg hfits', hnames]

/-- Only the room for it makes an entry fatal that is not fatal elsewhere. -/
theorem isFatal_iff_exhausts {h h' : Pattern.Host} (hnames : h.named? = h'.named?) {entry : Text}
    (hfatal : ¬ IsFatal h' entry) : IsFatal h entry ↔ Exhausts h entry := by
  refine ⟨fun hentry => ?_, isFatal_of_exhausts⟩
  by_contra hroom
  rw [IsFatal, patternError?_congr hnames hroom (mt isFatal_of_exhausts hfatal)] at hentry
  exact hfatal hentry

/-! ## Settings -/

/-- The entries of both lists, each with the name of its list. -/
def entries (s : Settings) : List (Text × Text) :=
  s.safelist.map ("safelist".toList, ·) ++ s.blocklist.map ("blocklist".toList, ·)

theorem forall_mem_entries {s : Settings} {P : Text → Prop} :
    (∀ x ∈ s.entries, P x.2) ↔ ∀ entry ∈ s.safelist ++ s.blocklist, P entry := by
  rw [entries, List.forall_mem_append, List.forall_mem_map, List.forall_mem_map,
    ← List.forall_mem_append]

/-- The entries that the policy leaves out as bad patterns, each with the name of its list and the
error in it. -/
def leftOut (h : Pattern.Host) (s : Settings) : List (Text × Text × Pattern.Error) :=
  s.entries.filterMap fun x => (Entry.fault? h x.2).map fun e => (x.1, x.2, e)

/-- The wording of the warning about an entry that is left out. -/
def wording (x : Text × Text × Pattern.Error) : Text :=
  x.1 ++ ": invalid pattern ".toList ++ Text.quoted (Text.trim x.2.1) ++ " skipped (".toList ++
    x.2.2.message (Text.trim x.2.1).tail.dropLast ++ [')']

section Policy

variable (h : Pattern.Host)

/-- The warning about an entry is the one about the pattern that is left out. -/
theorem warning?_text (label t : Text) :
    ((Entry.text t).meaning h).warning? label =
      (Entry.fault? h t).map fun e => wording (label, t, e) := by
  rw [Entry.fault?, Entry.meaning]
  cases (Text.trim t).isEmpty with
  | true => rfl
  | false =>
    rw [if_neg Bool.false_ne_true]
    cases Entry.patternSource? (Text.trim t) with
    | none => rfl
    | some source =>
      dsimp only
      cases Pattern.compile h source <;> rfl

/-- The policy warns of the entries that it leaves out, and of nothing else. -/
theorem warnings_listedPolicy (s : Settings) :
    (s.listedPolicy h).warnings = (s.leftOut h).map wording := by
  have hlist : ∀ (label : Text) (ts : List Text),
      EntryList.warnings h label (ts.map .text) =
        ((ts.map (label, ·)).filterMap fun x =>
          (Entry.fault? h x.2).map fun e => (x.1, x.2, e)).map wording := by
    intro label ts
    rw [EntryList.warnings, List.filterMap_map, List.filterMap_map, List.map_filterMap]
    apply List.filterMap_congr
    intro t _
    rw [Function.comp_apply, warning?_text, Function.comp_apply, Option.map_map]
    rfl
  rw [leftOut, entries, List.filterMap_append, List.map_append, ← hlist, ← hlist]
  rfl

theorem refusal?_text_eq_none_iff (t : Text) :
    ((Entry.text t).meaning h).refusal? = none ↔ ¬ IsFatal h (Text.trim t) := by
  rw [IsFatal, ← Entry.fault?_eq, Entry.fault?]
  cases (Entry.text t).meaning h with
  | badPattern written e => cases hfatal : e.fault.isFatal <;> simp [Entry.Meaning.refusal?, hfatal]
  | _ => simp [Entry.Meaning.refusal?]

/-- Lists are accepted unless an entry is a fatal pattern, whatever blanks are around it. -/
theorem isAccepted_iff (s : Settings) :
    s.IsAccepted h ↔ ∀ entry ∈ s.safelist ++ s.blocklist, ¬ IsFatal h (Text.trim entry) := by
  simp only [IsAccepted, refusal?_text_eq_none_iff]

end Policy

/-! ## Loading -/

/-- The entry that a notice is about, with the name of its list and the error in it, if it is about
a pattern. -/
def Notice.badEntry? : Notice → Option (Text × Text × Pattern.Error)
  | badPattern list entry e => some (list, entry, e)
  | _ => none

/-- The entries that loading tells of as bad patterns. -/
def Loaded.badEntries (loaded : Loaded) : List (Text × Text × Pattern.Error) :=
  loaded.notices.filterMap Notice.badEntry?

/-- The entries with an error, each with the name of its list and the error in it. -/
def faulty (h : Pattern.Host) (entries : List (Text × Text)) : List (Text × Text × Pattern.Error) :=
  entries.filterMap fun x => (patternError? h x.2).map fun e => (x.1, x.2, e)

/-- When checking passes, it has told of every entry with an error. -/
theorem filterMap_badEntry?_checkPatterns {h : Pattern.Host} {entries : List (Text × Text)}
    (hok : (checkPatterns h entries).1 = .ok ()) :
    (checkPatterns h entries).2.filterMap Notice.badEntry? = faulty h entries := by
  induction entries with
  | nil => rfl
  | cons x entries ih =>
    obtain ⟨list, entry⟩ := x
    rw [checkPatterns] at hok ⊢
    rw [faulty] at ih ⊢
    cases herror : patternError? h entry with
    | none =>
      rw [herror] at hok
      rw [List.filterMap_cons_none (by rw [herror]; rfl)]
      exact ih hok
    | some e =>
      rw [herror] at hok
      dsimp only at hok ⊢
      cases hfatal : e.fault.isFatal with
      | true =>
        rw [hfatal] at hok
        cases hok
      | false =>
        rw [hfatal] at hok
        rw [List.filterMap_cons_some (by rw [herror]; rfl), ← ih hok]
        rfl

theorem filterMap_badEntry?_numberOf (e : Environment) (name : Text) (usual : Int) :
    (numberOf e name usual).2.filterMap Notice.badEntry? = [] := by
  rw [numberOf]
  cases e.get? name with
  | none => rfl
  | some value =>
    dsimp only
    cases Text.toInt? value <;> rfl

/-- The lists of the settings of an environment, and what there is to tell about them. -/
theorem ofEnvironment_of_ok {h : Pattern.Host} {e : Environment} {added : List Text} {s : Settings}
    (hok : (ofEnvironment h e added).outcome = .ok s) :
    s.safelist = listOf e "CSS_SAFELIST".toList ++ added ∧
      s.blocklist = listOf e "CSS_BLOCKLIST".toList ∧
        (checkPatterns h s.entries).1 = .ok () ∧
          (ofEnvironment h e added).badEntries = faulty h s.entries := by
  have hnumbers := filterMap_badEntry?_numberOf e
  rw [ofEnvironment] at hok ⊢
  dsimp only at hok ⊢
  split at hok
  · cases hok
  · rename_i hchecked
    cases hok
    refine ⟨rfl, rfl, hchecked, ?_⟩
    rw [Loaded.badEntries]
    dsimp only
    rw [List.filterMap_append, List.filterMap_append, hnumbers, hnumbers, List.append_nil,
      List.append_nil, filterMap_badEntry?_checkPatterns hchecked]
    rfl

/-- What is told of a whitelist is about no pattern. -/
theorem filterMap_badEntry?_whitelistEntries {l : Loader} {f : Folder} {path : Path}
    {entries : List Text} {told : List Notice}
    (hread : whitelistEntries l f path = .ok (entries, told)) :
    told.filterMap Notice.badEntry? = [] := by
  unfold whitelistEntries at hread
  split at hread
  · cases hread
  · split at hread
    · cases hread
      rfl
    · cases hread
      rfl
    · split at hread
      · cases hread
      · cases hread
        rfl
      · cases hread
        rfl

/-- Settings that have been loaded are those of an environment with the entries of the whitelist,
and nothing else is told of patterns. -/
theorem exists_environment_of_load {l : Loader} {e : Environment} {f : Folder}
    {envFile path : Option Text} {s : Settings}
    (hload : (load l e f envFile path).outcome = .ok s) :
    ∃ e', l.extend e f envFile = .ok e' ∧
      (ofEnvironment l.patterns e' (whitelisted l e' f path)).outcome = .ok s ∧
        (load l e f envFile path).badEntries =
          (ofEnvironment l.patterns e' (whitelisted l e' f path)).badEntries := by
  cases hextend : l.extend e f envFile with
  | error err =>
    simp only [load, hextend] at hload
    cases hload
  | ok e' =>
    refine ⟨e', rfl, ?_⟩
    cases hpath : whitelistPath? e' path with
    | none =>
      rw [load_of_no_path hextend hpath] at hload ⊢
      rw [whitelisted_of_no_path hpath]
      exact ⟨hload, rfl⟩
    | some p =>
      cases hread : whitelistEntries l f (.ofText p) with
      | error err =>
        rw [load_of_error hextend hpath hread] at hload
        cases hload
      | ok found =>
        obtain ⟨entries, told⟩ := found
        rw [load_of_ok hextend hpath hread] at hload ⊢
        rw [whitelisted_of_ok hpath hread]
        refine ⟨hload, ?_⟩
        rw [Loaded.badEntries, Loaded.behind, List.filterMap_append,
          filterMap_badEntry?_whitelistEntries hread, List.nil_append]
        rfl

/-- Entries with an error are what the policy leaves out, less the patterns with blanks around
them. -/
theorem faulty_entries_eq (h : Pattern.Host) (s : Settings) :
    faulty h s.entries = (s.leftOut h).filter fun x => Text.trim x.2.1 == x.2.1 := by
  rw [faulty, leftOut, List.filter_filterMap]
  apply List.filterMap_congr
  rintro ⟨list, entry⟩ -
  rw [Entry.fault?_eq]
  by_cases htrim : Text.trim entry = entry
  · rw [htrim]
    cases patternError? h entry with
    | none => rfl
    | some e => simp [Option.filter, htrim]
  · rw [patternError?_of_trim_ne htrim]
    cases patternError? h (Text.trim entry) with
    | none => rfl
    | some e => simp [Option.filter, htrim]

/-- Everything that the policy leaves out is without blanks around it exactly when no entry with
blanks is a bad pattern. -/
theorem filter_leftOut_eq_self_iff (h : Pattern.Host) (s : Settings) :
    ((s.leftOut h).filter fun x => Text.trim x.2.1 == x.2.1) = s.leftOut h ↔
      ∀ entry ∈ s.safelist ++ s.blocklist, Text.trim entry ≠ entry →
        patternError? h (Text.trim entry) = none := by
  rw [List.filter_eq_self, leftOut, ← forall_mem_entries]
  constructor
  · intro hall x hx htrim
    cases herror : patternError? h (Text.trim x.2) with
    | none => rfl
    | some e =>
      have hmem : (x.1, x.2, e) ∈ s.leftOut h :=
        List.mem_filterMap.2 ⟨x, hx, by rw [Entry.fault?_eq, herror]; rfl⟩
      exact absurd (beq_iff_eq.1 (hall _ hmem)) htrim
  · intro hall y hy
    obtain ⟨x, hx, heq⟩ := List.mem_filterMap.1 hy
    obtain ⟨e, herror, rfl⟩ := Option.map_eq_some_iff.1 heq
    rw [Entry.fault?_eq] at herror
    by_contra htrim
    rw [hall x hx (by simpa using htrim)] at herror
    cases herror

section Loading

variable {l : Loader} {e : Environment} {f : Folder} {envFile path : Option Text} {s : Settings}
  {h : Pattern.Host}

/-- The blocklist that has been loaded has no entry with blanks around it. -/
theorem trim_of_mem_blocklist (hload : (load l e f envFile path).outcome = .ok s) {entry : Text}
    (hentry : entry ∈ s.blocklist) : Text.trim entry = entry := by
  obtain ⟨e', -, henv, -⟩ := exists_environment_of_load hload
  rw [(ofEnvironment_of_ok henv).2.1] at hentry
  exact trim_of_mem_listOf hentry

/-- No entry that has been loaded is a fatal pattern as it is written. -/
theorem not_isFatal_of_load (hload : (load l e f envFile path).outcome = .ok s) :
    ∀ entry ∈ s.safelist ++ s.blocklist, ¬ IsFatal l.patterns entry := by
  obtain ⟨e', -, henv, -⟩ := exists_environment_of_load hload
  obtain ⟨-, -, hchecked, -⟩ := ofEnvironment_of_ok henv
  exact forall_mem_entries.1 ((checkPatterns_fst_eq_ok_iff l.patterns s.entries).1 hchecked)

/-- Only a fatal pattern with blanks around it, in the safelist, is loaded and then refused, if
there is room for all the others. -/
theorem isAccepted_iff_of_load (hload : (load l e f envFile path).outcome = .ok s)
    (hnames : h.named? = l.patterns.named?) :
    s.IsAccepted h ↔
      (∀ entry ∈ s.safelist, Text.trim entry ≠ entry → ¬ IsFatal h (Text.trim entry)) ∧
        ∀ entry ∈ s.safelist ++ s.blocklist, ¬ Exhausts h entry := by
  have hfatal : ∀ entry ∈ s.safelist ++ s.blocklist, IsFatal h entry ↔ Exhausts h entry :=
    fun entry hentry => isFatal_iff_exhausts hnames (not_isFatal_of_load hload entry hentry)
  rw [isAccepted_iff]
  constructor
  · intro hall
    refine ⟨fun entry hentry _ => hall entry (List.mem_append_left _ hentry), ?_⟩
    intro entry hentry hroom
    obtain ⟨source, hsource, -⟩ := id hroom
    have htrim : Text.trim entry = entry := by
      by_contra hne
      exact nomatch hsource.symm.trans (patternSource?_of_trim_ne hne)
    exact hall entry hentry (htrim.symm ▸ isFatal_of_exhausts hroom)
  · rintro ⟨hpadded, hroom⟩ entry hentry
    by_cases htrim : Text.trim entry = entry
    · rw [htrim, hfatal entry hentry]
      exact hroom entry hentry
    · rcases List.mem_append.1 hentry with hsafe | hblock
      · exact hpadded entry hsafe htrim
      · exact absurd (trim_of_mem_blocklist hload hblock) htrim

/-- What loading tells of, as another system with the room for all patterns reads them. -/
theorem badEntries_load_eq (hload : (load l e f envFile path).outcome = .ok s)
    (hnames : h.named? = l.patterns.named?)
    (hroom : ∀ entry ∈ s.safelist ++ s.blocklist, ¬ Exhausts h entry) :
    (load l e f envFile path).badEntries =
      (s.leftOut h).filter fun x => Text.trim x.2.1 == x.2.1 := by
  obtain ⟨e', -, henv, htold⟩ := exists_environment_of_load hload
  obtain ⟨-, -, -, hentries⟩ := ofEnvironment_of_ok henv
  have hloaded : ∀ x ∈ s.entries, ¬ Exhausts l.patterns x.2 := forall_mem_entries.2
    fun entry hentry => mt isFatal_of_exhausts (not_isFatal_of_load hload entry hentry)
  rw [htold, hentries, ← faulty_entries_eq, faulty, faulty]
  apply List.filterMap_congr
  intro x hx
  rw [patternError?_congr hnames (forall_mem_entries.2 hroom x hx) (hloaded x hx)]

end Loading

/-- **Patterns are told of as the policy leaves them out**, but for the entries of a whitelist that
have blanks around them.  A policy of settings that have been loaded warns of what it leaves out,
and loading has told of those of these entries that have no blanks around them, in their order.
There is a policy and these are all that it leaves out exactly when no entry of the safelist with
blanks around it is a bad pattern and there is room on the stack for all patterns. -/
theorem badEntries_load (l : Loader) (e : Environment) (f : Folder) (envFile path : Option Text)
    (s : Settings) (hload : (load l e f envFile path).outcome = .ok s) (h : Pattern.Host)
    (hnames : h.named? = l.patterns.named?) :
    (∀ c, s.checked h = .ok c → c.policy.warnings = (s.leftOut h).map wording ∧
      (load l e f envFile path).badEntries =
        (s.leftOut h).filter fun x => Text.trim x.2.1 == x.2.1) ∧
    ((∃ c, s.checked h = .ok c) ∧ (load l e f envFile path).badEntries = s.leftOut h ↔
      (∀ entry ∈ s.safelist, Text.trim entry ≠ entry →
        patternError? h (Text.trim entry) = none) ∧
      ∀ entry ∈ s.safelist ++ s.blocklist, ¬ Exhausts h entry) := by
  have haccepted := isAccepted_iff_of_load hload hnames
  have htold := badEntries_load_eq hload hnames
  have hblocklist : ∀ entry ∈ s.blocklist, Text.trim entry ≠ entry →
      patternError? h (Text.trim entry) = none :=
    fun entry hentry htrim => absurd (trim_of_mem_blocklist hload hentry) htrim
  have hall := filter_leftOut_eq_self_iff h s
  rw [List.forall_mem_append, and_iff_left hblocklist] at hall
  constructor
  · intro c hc
    obtain ⟨hok, -, hpolicy⟩ := checked_eq_ok_iff.1 hc
    rw [hpolicy]
    exact ⟨warnings_listedPolicy h s, htold (haccepted.1 hok).2⟩
  · constructor
    · rintro ⟨⟨c, hc⟩, heq⟩
      have hroom := (haccepted.1 (checked_eq_ok_iff.1 hc).1).2
      exact ⟨hall.1 ((htold hroom).symm.trans heq), hroom⟩
    · rintro ⟨hpadded, hroom⟩
      have hok : s.IsAccepted h := by
        refine haccepted.2 ⟨?_, hroom⟩
        rintro entry hentry htrim ⟨err, herr, -⟩
        exact nomatch herr.symm.trans (hpadded entry hentry htrim)
      obtain ⟨c, hc, -⟩ := exists_checked hok
      exact ⟨⟨c, hc⟩, (htold hroom).trans (hall.2 hpadded)⟩

/-- A bad pattern in each list, and two entries of the whitelist with blanks around them: a literal,
and a pattern with the name of a character. -/
theorem badEntries_load_both_lists :
    let h : Pattern.Host :=
      { named? := fun n => if n = "DIGIT ONE".toList then some '1' else none }
    let l : Loader := { patterns := h }
    let e : Environment := { bindings := [("CSS_BLOCKLIST".toList, "b, /[/".toList)] }
    let named := "/\\N\x7bDIGIT ONE\x7d/".toList
    let written := ("\x7b\x22selectors\x22:[\x22 a \x22,\x22/(/\x22," ++
      "\x22 /\\\\N\x7bDIGIT ONE\x7d/ \x22]\x7d").toList
    let f : Folder := { nodes := [([['w']], .file (Text.Utf8.encode written))] }
    let s : Settings :=
      { safelist := [" a ".toList, "/(/".toList, ' ' :: named ++ [' ']]
        blocklist := ["b".toList, "/[/".toList] }
    let loaded := load l e f none (some ['w'])
    loaded.outcome = .ok s ∧ h.named? = l.patterns.named? ∧
      (∀ entry ∈ s.safelist, Text.trim entry ≠ entry →
        patternError? h (Text.trim entry) = none) ∧
      (s.leftOut h).map (fun x => (x.1, x.2.1)) =
        [("safelist".toList, "/(/".toList), ("blocklist".toList, "/[/".toList)] ∧
      (∃ c, s.checked h = .ok c) ∧ loaded.badEntries = s.leftOut h := by
  intro h l e named written f s loaded
  have houtcome : loaded.outcome = .ok s := by decide +kernel
  have hblanks : ∀ entry ∈ s.safelist, Text.trim entry ≠ entry →
      patternError? h (Text.trim entry) = none := by
    decide +kernel
  have hleft : (s.leftOut h).map (fun x => (x.1, x.2.1)) =
      [("safelist".toList, "/(/".toList), ("blocklist".toList, "/[/".toList)] := by
    decide +kernel
  have hroom : ∀ entry ∈ s.safelist ++ s.blocklist, ¬ Exhausts h entry := by
    rintro entry - ⟨source, -, hex⟩
    exact Bool.false_ne_true hex
  exact ⟨houtcome, rfl, hblanks, hleft,
    (badEntries_load l e f none (some ['w']) s houtcome h rfl).2.2 ⟨hblanks, hroom⟩⟩

/-- Nothing is told of a bad pattern with a blank in front of it, which the policy leaves out. -/
theorem leftOut_untold :
    let f : Folder := { nodes := [([['w']],
      .file (Text.Utf8.encode "\x7b\x22selectors\x22:[\x22 /[/\x22]\x7d".toList))] }
    let s : Settings := { safelist := [" /[/".toList] }
    let loaded := load {} {} f none (some ['w'])
    loaded.outcome = .ok s ∧ loaded.badEntries = [] ∧
      (s.leftOut {}).map (fun x => (x.1, x.2.1)) = [("safelist".toList, " /[/".toList)] ∧
        (s.checked {}).toOption.map (·.policy.warnings) =
          some [("safelist: invalid pattern '/[/' skipped " ++
            "(unterminated character set at position 0)").toList] := by
  decide +kernel

end Settings

end CssTrim
