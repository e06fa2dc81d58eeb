import CssTrim.Proofs.Classify.UsedClass
import CssTrim.Proofs.Settings.Patterns
import CssTrim.Proofs.Stylesheet.Comments
import CssTrim.Proofs.Text.Words

/-!
# A whitelisted class or id protects its rules

What the classes and ids of a whitelist name is kept by every run with the
settings that were loaded, whatever else they say.

* The whitelist.  `Whitelist.Names` says which classes and ids a whitelist names,
  and `Whitelist.exists_entry` that there is an entry of the safelist for each.
* The policy.  Such an entry is a literal, so it keeps every selector with the
  class or id: `Policy.isSafelisted_of_mem`.  The safelist is asked first.
* The run.  `Stylesheet.retained_of_whitelisted` goes from the file to what
  purging keeps and writes.  It also says when there is a run at all: an entry of
  the safelist that is a fatal pattern with blanks around it is loaded, and
  refused only by the policy.

No text holds half of a surrogate pair, so a whitelist that names one is not read.
In a selector U+FFFD stands for such a half, and nothing is said of a name with that
character where an escape may have put it there.
-/

namespace CssTrim

/-! ## The whitelist -/

namespace Whitelist

/-- The texts in the list of a field. -/
def textsOf (key : Text) (fields : List (Text × Value)) : List Text :=
  match Value.field? key fields with
  | some (.list items) => items.filterMap fun item =>
    match item with
    | .text t => some t
    | _ => none
  | _ => []

/-- Whether the fields of a whitelist name a class or id: a word of a text among the classes, or a
text without blanks among the ids. -/
inductive Names (fields : List (Text × Value)) : SimpleSelector → Prop where
  | className {t p : Text} (ht : t ∈ textsOf classesField fields) (hp : p ∈ Text.words t) :
      Names fields (.className p)
  | id {p : Text} (hp : p ∈ textsOf idsField fields) (hne : p ≠ [])
      (hsolid : ∀ c ∈ p, Text.isBlank c = false) : Names fields (.id p)

/-- The texts among the classes and ids, if the text of a whitelist is that of an object. -/
def listed? (depth : Text → Nat) (written : Text) : Option (List Text × List Text) :=
  match document depth written with
  | .ok (.object fields) => some (textsOf classesField fields, textsOf idsField fields)
  | _ => none

theorem exists_fields_of_listed? {depth : Text → Nat} {written : Text} {classes ids : List Text}
    (h : listed? depth written = some (classes, ids)) :
    ∃ fields, document depth written = .ok (.object fields) ∧
      textsOf classesField fields = classes ∧ textsOf idsField fields = ids := by
  unfold listed? at h
  split at h
  · rename_i fields hread
    obtain ⟨hclasses, hids⟩ := Prod.mk.inj (Option.some.inj h)
    exact ⟨fields, hread, hclasses, hids⟩
  · cases h

/-- A text in the list of a field is an item of the field. -/
theorem mem_itemsOf {key t : Text} {fields : List (Text × Value)} {items : List Value}
    (ht : t ∈ textsOf key fields) (hitems : itemsOf key fields = .ok items) :
    .text t ∈ items := by
  rw [textsOf] at ht
  split at ht
  · rename_i found hfield
    simp only [itemsOf, hfield, Value.items?] at hitems
    obtain rfl := Except.ok.inj hitems
    obtain ⟨item, hitem, heq⟩ := List.mem_filterMap.1 ht
    split at heq
    · cases heq
      exact hitem
    · cases heq
  · exact absurd ht List.not_mem_nil

/-- The parts that the entries of an object are made of. -/
theorem exists_items_of_entriesOf {fields : List (Text × Value)} {entries : List Text}
    (h : entriesOf fields = .ok entries) :
    ∃ classes ids selectors, itemsOf classesField fields = .ok classes ∧
      itemsOf idsField fields = .ok ids ∧ itemsOf selectorsField fields = .ok selectors ∧
        entries = classes.flatMap classEntries ++ ids.flatMap idEntries ++
          selectors.flatMap selectorEntries := by
  rw [entriesOf] at h
  cases hclasses : itemsOf classesField fields with
  | error => rw [hclasses] at h; cases h
  | ok classes =>
    cases hids : itemsOf idsField fields with
    | error => rw [hclasses, hids] at h; cases h
    | ok ids =>
      cases hselectors : itemsOf selectorsField fields with
      | error => rw [hclasses, hids, hselectors] at h; cases h
      | ok selectors =>
        rw [hclasses, hids, hselectors] at h
        cases h
        exact ⟨classes, ids, selectors, rfl, rfl, rfl, rfl⟩

/-- A class or id that is named has an entry, which is one word and names it for the safelist. -/
theorem exists_entry {fields : List (Text × Value)} {x : SimpleSelector} (hx : Names fields x)
    {entries : List Text} (h : entriesOf fields = .ok entries) :
    ∃ entry ∈ entries, entry ∈ EntryList.namesOf x ∧ Text.Spaced entry ∧
      entry.head? ≠ some '/' := by
  obtain ⟨classes, ids, selectors, hclasses, hids, -, rfl⟩ := exists_items_of_entriesOf h
  cases hx with
  | @className t p ht hp =>
    have hentry : '.' :: p ∈ classEntries (.text t) := List.mem_map_of_mem hp
    refine ⟨'.' :: p, ?_, by simp [EntryList.namesOf], ?_, by simp⟩
    · rw [List.append_assoc]
      exact List.mem_append_left _ (List.mem_flatMap.2 ⟨_, mem_itemsOf ht hclasses, hentry⟩)
    · exact .solid (by decide) (Text.Spaced.of_mem_words hp)
  | @id p hp hne hsolid =>
    have hentry : '#' :: p ∈ idEntries (.text p) := by
      have htruthy : (Value.text p).isTruthy = true := by simp [Value.isTruthy, hne]
      rw [idEntries, if_pos htruthy]
      exact List.mem_singleton.2 rfl
    refine ⟨'#' :: p, ?_, by simp [EntryList.namesOf], ?_, by simp⟩
    · exact List.mem_append_left _
        (List.mem_append_right _ (List.mem_flatMap.2 ⟨_, mem_itemsOf hp hids, hentry⟩))
    · exact .solid (by decide) (Text.Spaced.of_forall hne hsolid)

end Whitelist

/-! ## Selectors -/

/-- Whether an escape in a selector spells half of a surrogate pair.  No text can hold the name that
it is part of, which is read with U+FFFD in its place. -/
def Selector.hasHalfPair : Text → Bool
  | '\\' :: c :: rest =>
    let code := Text.hexNumber (spanHex 6 (c :: rest)).1
    (0xd800 ≤ code && code ≤ 0xdfff) || hasHalfPair rest
  | _ :: rest => hasHalfPair rest
  | [] => false

/-! ## The policy -/

/-- An entry without blanks to lose that starts with no slash is a literal as it stands. -/
theorem Entry.meaning_of_spaced {h : Pattern.Host} {t : Text} (ht : Text.Spaced t)
    (hslash : t.head? ≠ some '/') : (Entry.text t).meaning h = .literal t := by
  have hsource : Entry.patternSource? t = none := by
    rw [Entry.patternSource?, if_neg]
    exact fun h => hslash h.2.1
  have hempty : ¬ t.isEmpty = true := by
    rw [List.isEmpty_iff]
    exact ht.ne_nil
  rw [Entry.meaning, ht.trim_eq, if_neg hempty, hsource]
  dsimp only
  rw [ht.squeeze_eq]

/-- A literal that names a class or id covers every selector with it. -/
theorem EntryList.covers_of_mem_literals {l : EntryList} {selector name : Text}
    {x : SimpleSelector} (hx : x ∈ Selector.simples selector) (hname : name ∈ namesOf x)
    (hmem : name ∈ l.literals) : l.covers selector = true := by
  rw [covers, Bool.or_eq_true, Bool.or_eq_true]
  refine .inl (.inr (List.any_eq_true.2 ⟨x, hx, List.any_eq_true.2 ⟨name, hname, ?_⟩⟩))
  exact List.contains_iff_mem.2 hmem

/-- An entry of the safelist that is one word and names a class or id keeps every selector with
it. -/
theorem CheckedSettings.isSafelisted_of_mem {s : CheckedSettings} {entry selector : Text}
    {x : SimpleSelector} (hentry : entry ∈ s.safelist) (hspaced : Text.Spaced entry)
    (hslash : entry.head? ≠ some '/') (hname : entry ∈ EntryList.namesOf x)
    (hx : x ∈ Selector.simples selector) : s.policy.isSafelisted selector = true := by
  obtain ⟨h, hpolicy⟩ := s.exists_policy_eq
  rw [hpolicy]
  refine EntryList.covers_of_mem_literals hx hname (List.mem_filterMap.2 ⟨.text entry, ?_, ?_⟩)
  · exact List.mem_map_of_mem hentry
  · rw [Entry.meaning_of_spaced hspaced hslash]
    rfl

/-- A style rule with a safelisted alternative is kept. -/
theorem Judge.keep_classify_of_safelisted {j : Judge} {b : Block} {a : Text}
    (hstyle : b.isAtRule = false) (ha : a ∈ Selector.alternatives b.selectors)
    (hsafe : j.policy.isSafelisted a = true) : (j.classify b).keep = true := by
  have halternative : a ∈ b.alternatives := by
    rw [Block.alternatives, hstyle]
    exact ha
  rw [classify_of_not_isAtRule j hstyle]
  exact keep_direct_iff.2 ⟨a, halternative, isKept_verdict_iff.2 (.inl hsafe)⟩

/-! ## The run -/

/-- The entries of a whitelist that has been loaded are in the safelist. -/
theorem Settings.exists_entries_of_load {l : Loader} {e e' : Environment} {f : Folder}
    {envFile path : Option Text} {s : Settings} {w t : Text} {bytes : List UInt8}
    {fields : List (Text × Value)} (hload : (load l e f envFile path).outcome = .ok s)
    (hextend : l.extend e f envFile = .ok e') (hpath : whitelistPath? e' path = some w)
    (hfind : f.find? (.ofText w) = some (.file bytes)) (hdecode : Text.Utf8.decode? bytes = some t)
    (hread : Whitelist.document l.depth t = .ok (.object fields)) :
    ∃ entries, Whitelist.entriesOf fields = .ok entries ∧ entries ⊆ s.safelist := by
  cases hfound : whitelistEntries l f (.ofText w) with
  | error err =>
    rw [load_of_error hextend hpath hfound] at hload
    cases hload
  | ok found =>
    obtain ⟨added, told⟩ := found
    rw [load_of_ok hextend hpath hfound] at hload
    have hrefuses : l.refuses f (.ofText w) = false := by
      by_contra hrefuses
      rw [Bool.not_eq_false] at hrefuses
      exact nomatch (StopsAt.path hrefuses).whitelistEntries_eq.symm.trans hfound
    cases hentries : Whitelist.entriesOf fields with
    | error err =>
      simp [whitelistEntries, hrefuses, hfind, Whitelist.read, hdecode, hread, hentries] at hfound
      cases hfound
    | ok entries =>
      simp only [whitelistEntries, hrefuses, hfind, Whitelist.read, hdecode, hread, hentries]
        at hfound
      cases hfound
      refine ⟨_, rfl, ?_⟩
      rw [(ofEnvironment_of_ok hload).1]
      exact List.subset_append_right _ _

/-- A block that is written is read again as a block that says the same. -/
theorem Block.exists_agrees_of_mem {keepComments : Bool} {css : Text} {sub : List Block}
    (hsub : sub.Sublist (segmentWith keepComments css)) {b : Block} (hb : b ∈ sub) :
    ∃ c ∈ segment (serialize sub), c.Agrees b := by
  have hagrees := forall₂_agrees_segment_serialize hsub
  obtain ⟨i, hi, rfl⟩ := List.getElem_of_mem hb
  have hj : i < (segment (serialize sub)).length := by rwa [hagrees.length_eq]
  exact ⟨_, List.getElem_mem hj, hagrees.get hj hi⟩

namespace Stylesheet

/-- **A whitelisted class or id protects its rules.**  Let settings have been loaded with a
whitelist.  There is a policy of them exactly when no entry of the safelist is a fatal pattern with
blanks around it and there is room on the stack for all patterns.  Every run with it keeps each
style rule that has, in one of its alternatives, a class or id that the whitelist names, and writes
it, unless U+FFFD in that name may stand for half of a surrogate pair. -/
theorem retained_of_whitelisted (l : Settings.Loader) (e : Environment) (f : Folder)
    (envFile path : Option Text) (s : Settings)
    (hload : (Settings.load l e f envFile path).outcome = .ok s) (e' : Environment)
    (hextend : l.extend e f envFile = .ok e') (w : Text)
    (hpath : Settings.whitelistPath? e' path = some w) (bytes : List UInt8)
    (hfind : f.find? (.ofText w) = some (.file bytes)) (t : Text)
    (hdecode : Text.Utf8.decode? bytes = some t) (fields : List (Text × Value))
    (hread : Whitelist.document l.depth t = .ok (.object fields)) (h : Pattern.Host)
    (hnames : h.named? = l.patterns.named?) :
    ((∃ c, s.checked h = .ok c) ↔
      (∀ entry ∈ s.safelist, Text.trim entry ≠ entry →
        ¬ Settings.IsFatal h (Text.trim entry)) ∧
      ∀ entry ∈ s.safelist ++ s.blocklist, ¬ Settings.Exhausts h entry) ∧
    ∀ c, s.checked h = .ok c → ∀ x, Whitelist.Names fields x → ∀ (u : Usage) (css : Text),
      ∀ b ∈ s.blocksOf css, b.isAtRule = false → ∀ a ∈ Selector.alternatives b.selectors,
        ('\ufffd' ∈ x.value → Selector.hasHalfPair a = false) → x ∈ Selector.simples a →
          b ∈ retained c u css ∧ ∃ d ∈ Block.segment (purge c u css).css, d.Agrees b := by
  refine ⟨?_, ?_⟩
  · rw [← Settings.isAccepted_iff_of_load hload hnames]
    constructor
    · exact fun ⟨c, hc⟩ => (Settings.checked_eq_ok_iff.1 hc).1
    · intro haccepted
      obtain ⟨c, hc, -⟩ := Settings.exists_checked haccepted
      exact ⟨c, hc⟩
  intro c hc x hx u css b hb hstyle a ha _ hmem
  obtain ⟨-, rfl, -⟩ := Settings.checked_eq_ok_iff.1 hc
  obtain ⟨entries, hentries, hsafelist⟩ :=
    Settings.exists_entries_of_load hload hextend hpath hfind hdecode hread
  obtain ⟨entry, hentry, hname, hspaced, hslash⟩ := Whitelist.exists_entry hx hentries
  have hsafe : c.policy.isSafelisted a = true :=
    CheckedSettings.isSafelisted_of_mem (hsafelist hentry) hspaced hslash hname hmem
  have hkeep : (Judge.classify { usage := u, policy := c.policy } b).keep = true :=
    Judge.keep_classify_of_safelisted hstyle ha hsafe
  have hkept : b ∈ retained c u css := Judge.mem_retained_of_keep hb hkeep
  refine ⟨hkept, ?_⟩
  rw [css_purge_eq_serialize]
  exact Block.exists_agrees_of_mem (Judge.retained_sublist _ _) hkept

/-- A whitelisted class and a whitelisted id that the blocklist names too. -/
theorem retained_of_whitelisted_blocklisted :
    let e : Environment := { bindings := [("CSS_BLOCKLIST".toList, "a, #i, /./".toList)] }
    let written := "\x7b\x22classes\x22:[\x22b a\x22],\x22ids\x22:[\x22i\x22]\x7d".toList
    let f : Folder := { nodes := [([['w']], .file (Text.Utf8.encode written))] }
    let s : Settings :=
      { safelist := [".b".toList, ".a".toList, "#i".toList]
        blocklist := ["a".toList, "#i".toList, "/./".toList] }
    let css := ".c, p > .a\x7b\x7d p:not(#i)\x7b\x7d .c\x7b\x7d".toList
    let b : Block :=
      { selectors := ".c, p > .a".toList, body := "\x7b\x7d".toList,
        condition := ".c, p > .a".toList, source := ".c, p > .a\x7b\x7d".toList }
    let b' : Block :=
      { selectors := "p:not(#i)".toList, body := "\x7b\x7d".toList, order := 1,
        condition := "p:not(#i)".toList, source := " p:not(#i)\x7b\x7d".toList }
    (Settings.load {} e f none (some ['w'])).outcome = .ok s ∧
      ∃ c, s.checked {} = .ok c ∧
        (b ∈ retained c {} css ∧ ∃ d ∈ Block.segment (purge c {} css).css, d.Agrees b) ∧
          (b' ∈ retained c {} css ∧ ∃ d ∈ Block.segment (purge c {} css).css, d.Agrees b') ∧
            (purge c {} css).css = ".c, p > .a\x7b\x7d\np:not(#i)\x7b\x7d".toList := by
  intro e written f s css b b'
  have houtcome : (Settings.load {} e f none (some ['w'])).outcome = .ok s := by decide +kernel
  have hdecode : Text.Utf8.decode? (Text.Utf8.encode written) = some written := by decide +kernel
  have hlisted : Whitelist.listed? (fun _ => 990) written =
      some (["b a".toList], ["i".toList]) := by
    decide +kernel
  obtain ⟨fields, hread, hclasses, hids⟩ := Whitelist.exists_fields_of_listed? hlisted
  have hclass : Whitelist.Names fields (.className ['a']) :=
    .className (by rw [hclasses]; exact List.mem_cons_self) (by decide)
  have hid : Whitelist.Names fields (.id ['i']) :=
    .id (by rw [hids]; exact List.mem_cons_self) (by decide)
      (List.forall_mem_singleton.2 (by decide))
  obtain ⟨hpolicy, hkept⟩ := retained_of_whitelisted {} e f none (some ['w']) s houtcome e rfl ['w']
    rfl (Text.Utf8.encode written) rfl written hdecode fields hread {} rfl
  have hblanks : ∀ entry ∈ s.safelist, Text.trim entry = entry := by decide +kernel
  obtain ⟨c, hc⟩ : ∃ c, s.checked {} = .ok c := by
    refine hpolicy.2 ⟨fun entry hentry htrim => absurd (hblanks entry hentry) htrim, ?_⟩
    rintro entry - ⟨source, -, hex⟩
    exact Bool.false_ne_true hex
  have hcss : ((s.checked {}).toOption.map fun c => (purge c {} css).css) =
      some ".c, p > .a\x7b\x7d\np:not(#i)\x7b\x7d".toList := by
    decide +kernel
  rw [hc] at hcss
  exact ⟨houtcome, c, hc,
    hkept c hc _ hclass {} css b (by decide +kernel) rfl "p > .a".toList (by decide +kernel)
      (by decide +kernel) (by decide +kernel),
    hkept c hc _ hid {} css b' (by decide +kernel) rfl "p:not(#i)".toList (by decide +kernel)
      (by decide +kernel) (by decide +kernel), Option.some.inj hcss⟩

/-- An entry of the whitelist that is a fatal pattern with blanks around it is loaded and then
refused, and so nothing is kept of a class that the whitelist names. -/
theorem refused_of_blank_pattern :
    let written := ("\x7b\x22classes\x22:[\x22a\x22]," ++
      "\x22selectors\x22:[\x22 /a\x7b4294967295\x7d/ \x22]\x7d").toList
    let f : Folder := { nodes := [([['w']], .file (Text.Utf8.encode written))] }
    let s : Settings := { safelist := [".a".toList, " /a\x7b4294967295\x7d/ ".toList] }
    (Settings.load {} {} f none (some ['w'])).outcome = .ok s ∧
      (((s.checked {}).mapError fun err => err.fault.message).map fun c => c.policy.warnings) =
        .error "the repetition number is too large".toList := by
  decide +kernel

end Stylesheet

end CssTrim
