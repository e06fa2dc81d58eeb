import CssTrim.Proofs.Critical
import CssTrim.Proofs.Selector.Scan
import CssTrim.Proofs.Stylesheet.Split
import CssTrim.Proofs.Text.Words
import CssTrim.Proofs.Usage.Attribute

/-!
# The rules of an element above the fold

A rule that names a class of an element above the fold is critical, provided that
the list of critical selectors is not full and that the rule names the class as
the page does.  There are three groups.

* The list.  As long as it is not full nothing is left out of it:
  `Critical.mem_selectors`.
* Listed alternatives.  A style rule with one of them comes on the critical side.
* Pages.  `extractCritical_own_class` says it of the split by a page.  A rule that
  spells the class with an escape is not found: the list holds the class as the page
  has it, and selectors are looked up as they are written.
-/

namespace CssTrim

/-! ## The list -/

namespace Critical

/-- A list that is not full holds the selectors of every element. -/
theorem mem_selectors {elements : List Element} {seed : List Text} {limit : Int}
    (hroom : ((selectors elements seed limit).length : Int) < limit) {e : Element}
    (he : e ∈ elements) {s : Text} (hs : Text.Spaced s) (hmem : s ∈ selectorsOf e) :
    s ∈ selectors elements seed limit := by
  rw [selectors_eq] at hroom ⊢
  have hall : (allSelectors elements seed).length ≤ limit.toNat := by
    rw [List.length_take] at hroom
    omega
  have hstream : s ∈ seed ++ elements.flatMap selectorsOf :=
    List.mem_append_right seed (List.mem_flatMap.2 ⟨e, he, hmem⟩)
  rw [List.take_of_length_le hall]
  exact mem_allSelectors.2 (.inl (List.mem_eraseDups.2 (mem_written hs hstream)))

theorem mem_selectorsOf {e : Element} {c : Text} (hc : c ∈ e.classes) :
    '.' :: c ∈ selectorsOf e :=
  mem_selectorsOf_iff.2 (.className hc)

/-- A listed selector is in the usage of the list. -/
theorem mem_raw_usage {elements : List Element} {seed : List Text} {limit : Int} {s : Text}
    (hs : Text.Spaced s) (hmem : s ∈ selectors elements seed limit) :
    s ∈ (usage elements seed limit).raw :=
  TokenSet.mem_ofList.2 (List.mem_map.2 ⟨s, hmem, hs.squeeze_eq⟩)

end Critical

/-! ## Listed alternatives -/

/-- A style rule comes on the critical side when one of its alternatives is listed as written and
not on the blocklist. -/
theorem CheckedSettings.isCritical_criticalJudge {s : CheckedSettings} {listed : Usage} {b : Block}
    (hrule : b.passthrough = false) (hstyle : b.isAtRule = false) {alternative : Text}
    (hmem : alternative ∈ Selector.alternatives b.selectors) (hraw : alternative ∈ listed.raw)
    (hlisted : s.policy.isBlocklisted alternative = false) :
    (s.criticalJudge listed).isCritical b = true := by
  let judge := s.criticalJudge listed
  have hown : alternative ∈ b.alternatives := by
    rw [Block.alternatives, hstyle]
    exact hmem
  have hused : judge.isUsed b alternative = true := by
    rw [Judge.isUsed, hstyle]
    exact Bool.or_eq_true_iff.2 (.inl (TokenSet.contains_iff.2 hraw))
  have hkept : (judge.verdict b alternative).isKept = true :=
    Judge.isKept_verdict_iff.2 (.inr ⟨hlisted, .inl hused⟩)
  have hkeep : (judge.classify b).keep = true := by
    rw [Judge.classify_of_not_isAtRule _ hstyle, Judge.keep_direct_iff]
    exact ⟨alternative, hown, hkept⟩
  rw [Judge.isCritical, hrule, Bool.not_false, Bool.and_true, Judge.decide]
  split
  · rfl
  · exact hkeep

namespace Stylesheet

/-! ## Pages -/

section Pages

variable {read : Markup.PageReader}

/-- A page that has been scanned gives the split by the selectors of its elements. -/
theorem extractCritical_of_scan (s : CheckedSettings) {page : Text}
    {elements : List Critical.Element}
    (hscan : Critical.scan read s.criticalWindow page = .ok elements) (css : Text) :
    extractCritical read s page css =
      .ok (split s (Critical.usage elements s.criticalSeed s.criticalLimit) css) := by
  rw [extractCritical, hscan]
  rfl

/-- **The rules of an element above the fold are critical.**  If the list of critical selectors is
not full, a style rule comes on the critical side when one of its alternatives is a class of an
element above the fold, written without escapes and not on the blocklist. -/
theorem extractCritical_own_class (s : CheckedSettings) {page : Text}
    {elements : List Critical.Element}
    (hscan : Critical.scan read s.criticalWindow page = .ok elements)
    (hroom : ((Critical.selectors elements s.criticalSeed s.criticalLimit).length : Int) <
      s.criticalLimit)
    {e : Critical.Element} (he : e ∈ elements) {c : Text} (hc : c ∈ e.classes) {css : Text}
    {b : Block} (hb : b ∈ s.blocksOf css) (hrule : b.passthrough = false)
    (hstyle : b.isAtRule = false) {written : Text}
    (halternative : '.' :: written ∈ Selector.alternatives b.selectors)
    (hname : Selector.readName written = (c, [])) (hplain : '\\' ∉ written)
    (hlisted : s.policy.isBlocklisted ('.' :: written) = false) :
    ∃ r, extractCritical read s page css = .ok r ∧
      let goes := (s.criticalJudge
        (Critical.usage elements s.criticalSeed s.criticalLimit)).isCritical
      r.Divides (s.blocksOf css) goes ∧ goes b = true ∧
        b.text ∈ (Block.segment r.critical).map Block.text := by
  have hwritten : written = c := by
    have h := Selector.readName_append_of_not_mem hplain
    rw [hname, List.append_nil] at h
    exact h.symm
  subst hwritten
  have hsolid : Text.isBlank '.' = false := by decide
  have hspaced : Text.Spaced ('.' :: written) :=
    .solid hsolid (Critical.spaced_of_mem_scan hscan he hc)
  have hraw := Critical.mem_raw_usage hspaced
    (Critical.mem_selectors hroom he hspaced (Critical.mem_selectorsOf hc))
  have hgoes := CheckedSettings.isCritical_criticalJudge hrule hstyle halternative hraw hlisted
  have hdivides := split_divides s (Critical.usage elements s.criticalSeed s.criticalLimit) css
  refine ⟨_, extractCritical_of_scan s hscan css, hdivides, hgoes, ?_⟩
  rw [hdivides.critical]
  exact List.mem_map_of_mem (List.mem_filter.2 ⟨hb, hgoes⟩)

end Pages

/-- The second class of an element on the last line above the fold, and a rule that names it behind
another alternative. -/
theorem extractCritical_own_class_second :
    let s : CheckedSettings :=
      { criticalWindow := 1, criticalSeed := ["b".toList], criticalLimit := 99 }
    let page := "<body>\n<p class=\x22d é\x22>\n<i class=z>".toList
    let css := ".z, .é\x7b\x7d .z\x7b\x7d".toList
    let e : Critical.Element := { tag := ['p'], classes := [['d'], ['é']], line := 2 }
    let b : Block :=
      { selectors := ".z, .é".toList, body := "\x7b\x7d".toList, condition := ".z, .é".toList,
        source := ".z, .é\x7b\x7d".toList }
    Critical.scan Markup.readPage s.criticalWindow page = .ok [e] ∧
      ((Critical.selectors [e] s.criticalSeed s.criticalLimit).length : Int) < s.criticalLimit ∧
        ['é'] ∈ e.classes ∧ b ∈ s.blocksOf css ∧
          ".é".toList ∈ Selector.alternatives b.selectors ∧
            Selector.readName ['é'] = (['é'], []) ∧
              s.policy.isBlocklisted ".é".toList = false ∧
                ∃ r, extractCritical Markup.readPage s page css = .ok r ∧
                  r.critical = ".z, .é\x7b\x7d".toList ∧
                  let goes := (s.criticalJudge
                    (Critical.usage [e] s.criticalSeed s.criticalLimit)).isCritical
                  r.Divides (s.blocksOf css) goes ∧ goes b = true ∧
                    b.text ∈ (Block.segment r.critical).map Block.text := by
  intro s page css e b
  have hscan : Critical.scan Markup.readPage s.criticalWindow page = .ok [e] := by decide +kernel
  have hroom : ((Critical.selectors [e] s.criticalSeed s.criticalLimit).length : Int) <
      s.criticalLimit := by decide +kernel
  have hb : b ∈ s.blocksOf css := by decide +kernel
  have halternative : ".é".toList ∈ Selector.alternatives b.selectors := by decide +kernel
  have hname : Selector.readName ['é'] = (['é'], []) := by decide +kernel
  have hlisted : s.policy.isBlocklisted ".é".toList = false := by decide +kernel
  have hcritical : (split s (Critical.usage [e] s.criticalSeed s.criticalLimit) css).critical =
      ".z, .é\x7b\x7d".toList := by decide +kernel
  obtain ⟨r, hr, hgoes⟩ := extractCritical_own_class s hscan hroom (List.mem_singleton_self e)
    (by decide : ['é'] ∈ e.classes) hb rfl rfl halternative hname (by decide) hlisted
  obtain rfl := Except.ok.inj ((extractCritical_of_scan s hscan css).symm.trans hr)
  exact ⟨hscan, hroom, by decide, hb, halternative, hname, hlisted, _, hr, hcritical, hgoes⟩

/-- A class with a colon, which a selector cannot hold without an escape.  The list has the class as
the page does, and the rule that names it goes to what remains. -/
theorem extractCritical_own_class_escaped :
    let s : CheckedSettings := {}
    let page := "<body><p class=\x22a:b\x22>".toList
    let css := ".a\\:b\x7b\x7d".toList
    let e : Critical.Element := { tag := ['p'], classes := ["a:b".toList], line := 1 }
    let b : Block :=
      { selectors := ".a\\:b".toList, body := "\x7b\x7d".toList, condition := ".a\\:b".toList,
        source := css }
    Critical.scan Markup.readPage s.criticalWindow page = .ok [e] ∧
      ((Critical.selectors [e] s.criticalSeed s.criticalLimit).length : Int) < s.criticalLimit ∧
        "a:b".toList ∈ e.classes ∧ b ∈ s.blocksOf css ∧ b.passthrough = false ∧
          b.isAtRule = false ∧ ".a\\:b".toList ∈ Selector.alternatives b.selectors ∧
            Selector.readName "a\\:b".toList = ("a:b".toList, []) ∧
              Selector.simples ".a\\:b".toList = [.className "a:b".toList] ∧
                s.policy.isBlocklisted ".a\\:b".toList = false ∧
                  ∃ r, extractCritical Markup.readPage s page css = .ok r ∧ r.critical = [] ∧
                    r.remaining = css := by
  intro s page css e b
  have hscan : Critical.scan Markup.readPage s.criticalWindow page = .ok [e] := by decide +kernel
  have hsides : (split s (Critical.usage [e] s.criticalSeed s.criticalLimit) css).critical = [] ∧
      (split s (Critical.usage [e] s.criticalSeed s.criticalLimit) css).remaining = css := by
    decide +kernel
  exact ⟨hscan, by decide +kernel, by decide, by decide +kernel, rfl, rfl, by decide +kernel,
    by decide +kernel, by decide +kernel, by decide +kernel, _, extractCritical_of_scan s hscan css,
    hsides⟩

end Stylesheet

end CssTrim
