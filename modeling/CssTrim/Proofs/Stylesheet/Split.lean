import CssTrim.Proofs.Markup.Rejection
import CssTrim.Proofs.Settings.Checked
import CssTrim.Proofs.Stylesheet.Purge

/-!
# Splitting by what is above the fold

A split sends every block of a stylesheet to one of two sides and keeps the order
on both.  There are three groups.

* The sides.  `Judge.isCritical` says on which side a block comes, and the two
  lists that a split writes are the two filters by it.
* One split.  `Split.Divides` is what a split has to do with the blocks it was made
  from, and `split_divides` says that every split does.
* Pages.  `extractCritical_divides` says the same of the split by the elements of
  a page, for settings whose lists are accepted and a page that can be read,
  however pages are read.  `extractCritical_refused` has two pages that cannot be
  read and a list that is not accepted: there is no split at all.
-/

namespace CssTrim

/-! ## The sides -/

namespace Judge

/-- Whether a block comes on the critical side: a judge keeps it, and it is no fragment. -/
def isCritical (j : Judge) (b : Block) : Bool := (j.decide b).keep && !b.passthrough

theorem filter_retained (j : Judge) (bs : List Block) :
    ((j.filter bs).retained.filter fun b => !b.passthrough) = bs.filter j.isCritical := by
  rw [retained_filter, List.filter_filter]
  apply List.filter_congr
  intro b _
  rw [isCritical, Bool.and_comm]

theorem map_filter_decisions (j : Judge) (bs : List Block) :
    ((j.filter bs).decisions.filter fun (b, c) => !c.keep || b.passthrough).map (·.1) =
      bs.filter fun b => !j.isCritical b := by
  rw [filter, List.filter_map, List.map_map]
  refine (List.map_id _).trans (List.filter_congr ?_)
  intro b _
  show (!(j.decide b).keep || b.passthrough) = !j.isCritical b
  rw [isCritical, Bool.not_and, Bool.not_not]

theorem isCritical_of_passthrough (j : Judge) {b : Block} (hb : b.passthrough = true) :
    j.isCritical b = false := by
  rw [isCritical, hb, Bool.not_true, Bool.and_false]

/-- A malformed rule is kept by every judge. -/
theorem isCritical_of_malformed (j : Judge) {b : Block} (hb : b.malformed = true)
    (hrule : b.passthrough = false) : j.isCritical b = true := by
  rw [isCritical, decide, hb, hrule]
  rfl

end Judge

/-- The judge that is asked when a stylesheet is split by the critical selectors of a usage. -/
def CheckedSettings.criticalJudge (s : CheckedSettings) (listed : Usage) : Judge where
  usage := listed
  policy := s.policy.forCritical
  critical := true

namespace Stylesheet

/-! ## One split -/

/-- What a split has to do with blocks, each of which goes to one side of it. -/
structure Split.Divides (r : Split) (bs : List Block) (goes : Block → Bool) : Prop where
  /-- The critical text is read as the blocks that go to its side, in their order. -/
  critical : (Block.segment r.critical).map Block.text = (bs.filter goes).map Block.text
  /-- The remaining text is read as all other blocks, in their order. -/
  remaining :
    (Block.segment r.remaining).map Block.text = (bs.filter fun b => !goes b).map Block.text
  passthrough : ∀ b ∈ bs, b.passthrough = true → goes b = false
  malformed : ∀ b ∈ bs, b.malformed = true → b.passthrough = false → goes b = true
  retained : r.stats.retained = (Block.segment r.critical).length
  removed : r.stats.removed = (Block.segment r.remaining).length
  blocksIn : (r.stats.blocksIn : Int) = r.stats.retained + r.stats.removed

/-- What a split does, blank stylesheets included. -/
theorem split_eq (s : CheckedSettings) (listed : Usage) (css : Text) :
    let judge := s.criticalJudge listed
    let critical := (s.blocksOf css).filter judge.isCritical
    let remaining := (s.blocksOf css).filter fun b => !judge.isCritical b
    split s listed css =
      { critical := Block.serialize critical
        remaining := Block.serialize remaining
        selectors := listed.raw.toList
        stats := {
          blocksIn := (s.blocksOf css).length
          retained := critical.length
          removed := remaining.length
          rejected := (judge.filter (s.blocksOf css)).rejected
          warnings := judge.policy.warnings } } := by
  intro judge critical remaining
  unfold split
  split
  · rename_i hblank
    have hnone : s.blocksOf css = [] := blocksOf_of_isBlankText s.toSettings hblank
    simp only [critical, remaining, hnone]
    rfl
  · have hcritical : critical = _ := (judge.filter_retained (s.blocksOf css)).symm
    have hremaining : remaining = _ := (judge.map_filter_decisions (s.blocksOf css)).symm
    rw [hcritical, hremaining]
    rfl

/-- What is written of either side is read as the blocks of that side. -/
theorem split_divides (s : CheckedSettings) (listed : Usage) (css : Text) :
    (split s listed css).Divides (s.blocksOf css) (s.criticalJudge listed).isCritical := by
  have hread : ∀ side : Block → Bool, List.Forall₂ Block.Agrees
      (Block.segment (Block.serialize ((s.blocksOf css).filter side)))
      ((s.blocksOf css).filter side) := fun side =>
    @Block.forall₂_agrees_segment_serialize s.keepComments css _ List.filter_sublist
  let judge := s.criticalJudge listed
  have hcritical := hread judge.isCritical
  have hremaining := hread fun b => !judge.isCritical b
  have hcount := (s.blocksOf css).length_eq_length_filter_add judge.isCritical
  rw [split_eq]
  constructor
  case critical => exact Block.map_text_of_forall₂_agrees hcritical
  case remaining => exact Block.map_text_of_forall₂_agrees hremaining
  case passthrough => exact fun _ _ hb => judge.isCritical_of_passthrough hb
  case malformed => exact fun _ _ hb hrule => judge.isCritical_of_malformed hb hrule
  case retained => exact congrArg Int.ofNat hcritical.length_eq.symm
  case removed => exact hremaining.length_eq.symm
  case blocksIn => exact (congrArg Int.ofNat hcount).trans (Int.natCast_add _ _)

/-! ## Pages -/

/-- A page that can be read can be scanned, and gives the split by the selectors of its elements. -/
theorem extractCritical_of_read {read : Markup.PageReader} (s : CheckedSettings) {page : Text}
    {body : Option Markup.Body} (hpage : read page = .ok body) (css : Text) :
    ∃ elements, Critical.scan read s.criticalWindow page = .ok elements ∧
      extractCritical read s page css =
        .ok (split s (Critical.usage elements s.criticalSeed s.criticalLimit) css) := by
  have hscan : ∃ elements, Critical.scan read s.criticalWindow page = .ok elements := by
    rw [Critical.scan, hpage]
    split
    · exact ⟨_, rfl⟩
    · exact ⟨_, rfl⟩
  obtain ⟨elements, hscan⟩ := hscan
  exact ⟨elements, hscan, by rw [extractCritical, hscan]; rfl⟩

/-- **Critical extraction splits a stylesheet.**  Settings whose lists are accepted can be checked,
and for every page that can be read there is then a split.  It divides the blocks of the stylesheet:
each of them goes to one of the two sides, fragments to what remains and malformed rules to what is
critical, and the counts are those of the two sides. -/
theorem extractCritical_divides (h : Pattern.Host) (s : Settings) (hlists : s.IsAccepted h)
    (read : Markup.PageReader) {page : Text} {body : Option Markup.Body}
    (hpage : read page = .ok body) (css : Text) :
    ∃ c elements r, s.checked h = .ok c ∧ c.toSettings = s ∧
      Critical.scan read s.criticalWindow page = .ok elements ∧
        extractCritical read c page css = .ok r ∧
          let listed := Critical.usage elements s.criticalSeed s.criticalLimit
          r.Divides (s.blocksOf css) (c.criticalJudge listed).isCritical := by
  obtain ⟨c, hchecked, rfl⟩ := Settings.exists_checked hlists
  obtain ⟨elements, hscan, hsplit⟩ := extractCritical_of_read c hpage css
  exact ⟨c, elements, _, hchecked, rfl, hscan, hsplit, split_divides c _ css⟩

/-- A pattern that is passed over, a page with known marked sections and no element, a seed that
lists one of two rules, a comment, and a media block that the input leaves open. -/
theorem extractCritical_divides_unclosed :
    let s : Settings := { blocklist := ["/[/".toList], criticalSeed := [".k".toList] }
    let page := "<![if IE]><![endif]>".toList
    let css := "/* c */ .z\x7b\x7d .k\x7b\x7d @media x\x7b.z\x7b".toList
    ∃ c elements r, s.checked {} = .ok c ∧ c.toSettings = s ∧
      Critical.scan Markup.readPage s.criticalWindow page = .ok elements ∧
        extractCritical Markup.readPage c page css = .ok r ∧
          r.critical = ".k\x7b\x7d\n@media x\x7b.z\x7b".toList ∧
            r.remaining = "/* c */\n.z\x7b\x7d".toList ∧
              let listed := Critical.usage elements s.criticalSeed s.criticalLimit
              r.Divides (s.blocksOf css) (c.criticalJudge listed).isCritical := by
  intro s page css
  have hlists : s.IsAccepted {} := by decide +kernel
  have hread : (Markup.readPage page).toOption.isSome = true := by decide +kernel
  have hsides : ((s.checked {}).toOption.bind fun c =>
      (extractCritical Markup.readPage c page css).toOption).map
        (fun r => (r.critical, r.remaining)) =
      some (".k\x7b\x7d\n@media x\x7b.z\x7b".toList, "/* c */\n.z\x7b\x7d".toList) := by
    decide +kernel
  cases hpage : Markup.readPage page with
  | error e =>
    rw [hpage] at hread
    exact absurd hread Bool.false_ne_true
  | ok body =>
    obtain ⟨c, elements, r, hchecked, hsettings, hscan, hr, hdivides⟩ :=
      extractCritical_divides {} s hlists Markup.readPage hpage css
    rw [hchecked, Except.toOption, Option.bind_some, hr] at hsides
    obtain ⟨hcritical, hremaining⟩ := Prod.mk.inj (Option.some.inj hsides)
    exact ⟨c, elements, r, hchecked, hsettings, hscan, hr, hcritical, hremaining, hdivides⟩

/-- A page that is rejected gives no split. -/
theorem extractCritical_of_rejected {read : Markup.PageReader} {page : Text}
    {e : Markup.Rejection} (hne : page ≠ []) (hpage : read page = .error e) (s : CheckedSettings)
    (css : Text) : extractCritical read s page css = .error e := by
  rw [extractCritical, Critical.scan, hpage, if_neg (by simpa using hne)]
  rfl

/-- A page with a marked section whose word is unknown and one with a decimal reference of too many
digits give no split of any stylesheet, and there are no checked settings with a repetition
that is too large in a list. -/
theorem extractCritical_refused :
    let s : CheckedSettings := {}
    let css := ".a\x7b\x7d".toList
    let unknown := "<![x]>".toList
    let long := '&' :: '#' :: (List.replicate (Text.digitLimit + 1) '1' ++ [';'])
    let refused : Settings := { safelist := ["/a\x7b4294967295\x7d/".toList] }
    Text.isBlankText css = false ∧
      (∀ page ∈ [unknown, long], ¬∃ r goes,
        extractCritical Markup.readPage s page css = .ok r ∧
          Split.Divides r (s.blocksOf css) goes) ∧
        ¬∃ c, refused.checked {} = .ok c := by
  intro s css unknown long refused
  have hunknown : Markup.readPage unknown = .error .unknownSection :=
    congrArg (Except.map _) (Markup.events_of_section rfl)
  have hlong : Markup.readPage long = .error (.longReference _) :=
    congrArg (Except.map _) (Markup.events_of_longReference
      (fun c hc => by rw [List.eq_of_mem_replicate hc]; rfl) (by simp) [])
  refine ⟨by decide, ?_, ?_⟩
  · have hrejected : ∀ page ∈ [unknown, long], ∃ e,
        extractCritical Markup.readPage s page css = .error e := by
      simp only [List.forall_mem_cons, List.not_mem_nil, false_implies, implies_true, and_true]
      exact ⟨⟨_, extractCritical_of_rejected (by decide) hunknown s css⟩,
        ⟨_, extractCritical_of_rejected (List.cons_ne_nil _ _) hlong s css⟩⟩
    rintro page hmem ⟨r, goes, hok, -⟩
    obtain ⟨e, herror⟩ := hrejected page hmem
    exact nomatch herror.symm.trans hok
  · rintro ⟨c, hok⟩
    have hnot : ¬ refused.IsAccepted {} := by decide +kernel
    exact hnot (Settings.checked_eq_ok_iff.1 hok).1

end Stylesheet

end CssTrim
