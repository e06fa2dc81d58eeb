import CssTrim.Settings

/-!
# The policy of settings

Reading the lists of settings either comes to a policy or stops at an entry that
is refused.  `Settings.readPolicy_eq_ok_iff` says when it comes to one, and to
which, and `Settings.checked_eq_ok_iff` says the same of settings that keep their
policy.
-/

namespace CssTrim

namespace Settings

variable {h : Pattern.Host} {s : Settings}

/-- The policy of settings whose lists are read without what is wrong in them. -/
def listedPolicy (h : Pattern.Host) (s : Settings) : Policy where
  keepVariables := s.keepVariables
  keepKeyframes := s.keepKeyframes
  keepFontFace := s.keepFontFace
  keepInteractive := s.keepInteractive
  keepMedia := s.keepMedia
  keepRoot := s.keepRoot
  safelist := .ofEntries h (s.safelist.map .text)
  blocklist := .ofEntries h (s.blocklist.map .text)
  warnings := EntryList.warnings h "safelist".toList (s.safelist.map .text) ++
    EntryList.warnings h "blocklist".toList (s.blocklist.map .text)

/-- No entry of either list is refused. -/
def IsAccepted (h : Pattern.Host) (s : Settings) : Prop :=
  ∀ entry ∈ s.safelist ++ s.blocklist, ((Entry.text entry).meaning h).refusal? = none

instance : Decidable (s.IsAccepted h) := inferInstanceAs (Decidable (∀ entry ∈ _, _ = _))

theorem readPolicy_eq_ok_iff {policy : Policy} :
    s.readPolicy h = .ok policy ↔ s.IsAccepted h ∧ policy = s.listedPolicy h := by
  have hrefusal :
      EntryList.refusal? h (s.safelist.map .text ++ s.blocklist.map .text) = none ↔
        s.IsAccepted h := by
    rw [EntryList.refusal?, ← List.map_append, List.findSome?_eq_none_iff, List.forall_mem_map,
      IsAccepted]
  rw [← hrefusal, readPolicy, Policy.withLists]
  cases EntryList.refusal? h (s.safelist.map .text ++ s.blocklist.map .text) with
  | some e => simp
  | none => exact ⟨fun hok => ⟨rfl, (Except.ok.inj hok).symm⟩, fun hok => hok.2 ▸ rfl⟩

/-- Settings are checked exactly when no entry is refused.  They stay as they are, and their policy
is the one of their lists. -/
theorem checked_eq_ok_iff {c : CheckedSettings} :
    s.checked h = .ok c ↔
      s.IsAccepted h ∧ c.toSettings = s ∧ c.policy = s.listedPolicy h := by
  rw [checked]
  split
  · rename_i e hpolicy
    refine iff_of_false nofun ?_
    rintro ⟨haccepted, -⟩
    exact nomatch hpolicy.symm.trans (readPolicy_eq_ok_iff.2 ⟨haccepted, rfl⟩)
  · rename_i policy hpolicy
    obtain ⟨haccepted, rfl⟩ := readPolicy_eq_ok_iff.1 hpolicy
    constructor
    · intro hok
      obtain rfl := Except.ok.inj hok
      exact ⟨haccepted, rfl, rfl⟩
    · obtain ⟨settings, policy, -⟩ := c
      rintro ⟨-, hsettings, hpolicy⟩
      dsimp only at hsettings hpolicy
      subst hsettings hpolicy
      rfl

/-- Settings whose lists are accepted can be checked. -/
theorem exists_checked (haccepted : s.IsAccepted h) :
    ∃ c, s.checked h = .ok c ∧ c.toSettings = s := by
  have hpolicy : s.readPolicy h = .ok (s.listedPolicy h) :=
    readPolicy_eq_ok_iff.2 ⟨haccepted, rfl⟩
  let c : CheckedSettings := { s with policy := s.listedPolicy h, exists_host := ⟨h, hpolicy⟩ }
  exact ⟨c, checked_eq_ok_iff.2 ⟨haccepted, rfl, rfl⟩, rfl⟩

end Settings

namespace CheckedSettings

/-- The policy of checked settings is that of their lists, for a system that reads patterns. -/
theorem exists_policy_eq (s : CheckedSettings) : ∃ h, s.policy = s.toSettings.listedPolicy h := by
  obtain ⟨h, hpolicy⟩ := s.exists_host
  exact ⟨h, (Settings.readPolicy_eq_ok_iff.1 hpolicy).2⟩

@[simp]
theorem keepVariables_policy (s : CheckedSettings) : s.policy.keepVariables = s.keepVariables := by
  obtain ⟨h, heq⟩ := s.exists_policy_eq
  rw [heq, Settings.listedPolicy]

end CheckedSettings

end CssTrim
