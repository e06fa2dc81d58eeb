import CssTrim.Critical
import CssTrim.Proofs.Text.Words
import Mathlib.Data.List.Nodup

/-!
# The list of critical selectors

The list is built selector by selector, and a selector is left out when it is there
already or when the list is full.  What comes of it is the front part of a list
that knows of no limit: the selectors of the seed and of the elements, then their
variants, each at its first place only.  There are five groups.

* Pages.  Whatever way a page is read in, the elements above its fold come from
  start tags of its body.
* First places.  `eraseDups_concat` says what one more entry does to a list of
  which only the first places are kept.
* One list.  `foldl_addSelector_take` is the induction: the list so far is the front
  part of what has been written so far.
* Both lists.  The variants are those of the selectors that are listed already.
  `selectors_eq` says that it comes to the same to take those of all selectors.
* Elements.  `Element.Names` are the selectors of one element, and `selectors_eq_take`
  puts all this together.
-/

namespace CssTrim.Critical

open Text

/-! ## Pages -/

/-- The elements that a scan reports are made from start tags of the body. -/
theorem exists_of_mem_scan {read : Markup.PageReader} {window : Int} {page : Text}
    {elements : List Element} (h : scan read window page = .ok elements) {e : Element}
    (he : e ∈ elements) :
    ∃ body tag line, read page = .ok (some body) ∧ (tag, line) ∈ body.tags ∧
      e = .ofTag tag line := by
  rw [scan] at h
  split at h
  · obtain rfl := Except.ok.inj h
    exact absurd he List.not_mem_nil
  · cases hread : read page with
    | error rejection =>
      rw [hread] at h
      cases h
    | ok found =>
      rw [hread] at h
      obtain rfl := Except.ok.inj h
      cases found with
      | none => exact absurd he List.not_mem_nil
      | some body =>
        obtain ⟨⟨tag, line⟩, hmem, rfl⟩ := List.mem_map.1 he
        exact ⟨body, tag, line, rfl, (List.takeWhile_sublist _).subset hmem, rfl⟩

/-- A class of an element above the fold has no blanks. -/
theorem spaced_of_mem_scan {read : Markup.PageReader} {window : Int} {page : Text}
    {elements : List Element} (h : scan read window page = .ok elements) {e : Element}
    (he : e ∈ elements) {c : Text} (hc : c ∈ e.classes) : Spaced c := by
  obtain ⟨_, tag, _, _, _, rfl⟩ := exists_of_mem_scan h he
  exact .of_mem_words hc

/-! ## First places -/

theorem eraseDups_concat (ts : List Text) (t : Text) :
    (ts ++ [t]).eraseDups = if t ∈ ts then ts.eraseDups else ts.eraseDups ++ [t] := by
  rw [List.eraseDups_append, List.removeAll]
  split
  · rename_i hmem
    simp [hmem]
  · rename_i hnew
    simp [hnew, List.eraseDups_cons]

theorem nodup_eraseDups (ts : List Text) : ts.eraseDups.Nodup := by
  induction ts using List.reverseRecOn with
  | nil => exact List.nodup_nil
  | append_singleton ts t ih =>
    rw [eraseDups_concat]
    split
    · exact ih
    · rename_i hnew
      refine List.nodup_append.2 ⟨ih, List.nodup_singleton t, ?_⟩
      rintro s hs _ ht rfl
      rw [List.mem_singleton] at ht
      exact hnew (ht ▸ List.mem_eraseDups.1 hs)

theorem eraseDups_eq_self {ts : List Text} (h : ts.Nodup) : ts.eraseDups = ts := by
  induction ts using List.reverseRecOn with
  | nil => rfl
  | append_singleton ts t ih =>
    obtain ⟨hts, -, hapart⟩ := List.nodup_append.1 h
    have hnew : t ∉ ts := fun hmem => hapart t hmem t (List.mem_singleton_self t) rfl
    rw [eraseDups_concat, if_neg hnew, ih hts]

/-- What comes later does not change the front part. -/
theorem take_eraseDups_append {n : Nat} {ss : List Text} (hn : n ≤ ss.eraseDups.length)
    (ts : List Text) : (ss ++ ts).eraseDups.take n = ss.eraseDups.take n := by
  rw [List.eraseDups_append, List.take_append_of_le_length hn]

/-! ## One list -/

/-- Selectors as they are written into a list: squeezed, and without the blank ones. -/
def written (selectors : List Text) : List Text :=
  (selectors.map squeeze).filter (!·.isEmpty)

theorem written_cons (s : Text) (selectors : List Text) :
    written (s :: selectors) = written [s] ++ written selectors := by
  unfold written
  rw [List.map_cons, ← List.singleton_append, List.filter_append]
  rfl

theorem spaced_of_mem_written {selectors : List Text} {s : Text} (h : s ∈ written selectors) :
    Spaced s := by
  obtain ⟨hmem, hne⟩ := List.mem_filter.1 h
  obtain ⟨t, -, rfl⟩ := List.mem_map.1 hmem
  exact .of_squeeze (by simpa using hne)

theorem written_eq_self {selectors : List Text} (h : ∀ s ∈ selectors, Spaced s) :
    written selectors = selectors := by
  have hsqueeze : selectors.map squeeze = selectors := by
    conv_rhs => rw [← List.map_id selectors]
    exact List.map_congr_left fun s hs => (h s hs).squeeze_eq
  unfold written
  rw [hsqueeze, List.filter_eq_self]
  intro s hs
  simpa using (h s hs).ne_nil

theorem mem_written {selectors : List Text} {s : Text} (hs : Spaced s) (hmem : s ∈ selectors) :
    s ∈ written selectors := by
  refine List.mem_filter.2 ⟨List.mem_map.2 ⟨s, hmem, hs.squeeze_eq⟩, ?_⟩
  simpa using hs.ne_nil

theorem addSelector_eq (limit : Int) (listed : List Text) (s : Text) :
    addSelector limit listed s =
      if squeeze s = [] ∨ squeeze s ∈ listed ∨ limit ≤ listed.length then listed
      else listed ++ [squeeze s] := by
  simp [addSelector, or_assoc]

/-- One more selector.  If the list is not full, then it holds all that has been written so far, and
a selector that is not on the list is new. -/
theorem addSelector_take (limit : Int) (listed : List Text) (s : Text) :
    addSelector limit (listed.eraseDups.take limit.toNat) s =
      (listed ++ written [s]).eraseDups.take limit.toNat := by
  rw [addSelector_eq]
  by_cases hblank : squeeze s = []
  · simp [written, hblank]
  have hwritten : written [s] = [squeeze s] := by simp [written, hblank]
  rw [hwritten, eraseDups_concat]
  by_cases hroom : listed.eraseDups.length < limit.toNat
  · have hall : listed.eraseDups.take limit.toNat = listed.eraseDups :=
      List.take_of_length_le hroom.le
    have hfree : ¬limit ≤ (listed.eraseDups.length : Int) := by omega
    rw [hall]
    by_cases hmem : squeeze s ∈ listed
    · rw [if_pos (.inr (.inl (List.mem_eraseDups.2 hmem))), if_pos hmem, hall]
    · have hnew : squeeze s ∉ listed.eraseDups := fun h => hmem (List.mem_eraseDups.1 h)
      have hlength : (listed.eraseDups ++ [squeeze s]).length ≤ limit.toNat := by
        rw [List.length_append, List.length_singleton]
        omega
      rw [if_neg (by tauto), if_neg hmem, List.take_of_length_le hlength]
  · have hfull : limit ≤ ((listed.eraseDups.take limit.toNat).length : Int) := by
      rw [List.length_take]
      omega
    rw [if_pos (.inr (.inr hfull))]
    split
    · rfl
    · rw [List.take_append_of_le_length (Nat.not_lt.1 hroom)]

theorem foldl_addSelector_take (limit : Int) (selectors listed : List Text) :
    selectors.foldl (addSelector limit) (listed.eraseDups.take limit.toNat) =
      (listed ++ written selectors).eraseDups.take limit.toNat := by
  induction selectors generalizing listed with
  | nil => rw [List.foldl_nil, written, List.map_nil, List.filter_nil, List.append_nil]
  | cons s selectors ih =>
    rw [List.foldl_cons, addSelector_take, ih, written_cons s selectors, List.append_assoc]

/-! ## Both lists -/

/-- The variants of selectors. -/
def variantsOf (selectors : List Text) : List Text :=
  selectors.flatMap fun s => variants.map (s ++ ·)

theorem mem_variantsOf {selectors : List Text} {s : Text} :
    s ∈ variantsOf selectors ↔ ∃ t ∈ selectors, ∃ v ∈ variants, t ++ v = s := by
  simp [variantsOf]

theorem spaced_of_mem_variants {v : Text} (hv : v ∈ variants) : Spaced v := by
  have hall : (variants.all fun v => !v.isEmpty && v.all (!isBlank ·)) = true := rfl
  have hword := List.all_eq_true.1 hall v hv
  rw [Bool.and_eq_true, Bool.not_eq_true', List.isEmpty_eq_false_iff, List.all_eq_true] at hword
  exact .of_forall hword.1 fun c hc => (Bool.not_eq_true' _).mp (hword.2 c hc)

theorem written_variantsOf {selectors : List Text} (h : ∀ s ∈ selectors, Spaced s) :
    written (variantsOf selectors) = variantsOf selectors := by
  apply written_eq_self
  intro s hs
  obtain ⟨t, ht, v, hv, rfl⟩ := mem_variantsOf.1 hs
  exact (h t ht).append (spaced_of_mem_variants hv)

/-- The selectors of a seed and of elements, each at its first place only. -/
def plainSelectors (elements : List Element) (seed : List Text) : List Text :=
  (written (seed ++ elements.flatMap selectorsOf)).eraseDups

/-- The list of critical selectors as it would be without a limit. -/
def allSelectors (elements : List Element) (seed : List Text) : List Text :=
  (plainSelectors elements seed ++ variantsOf (plainSelectors elements seed)).eraseDups

/-- **The limit cuts the list off.**  Where the limit cuts the plain selectors off there is no room
for any variant, so that it does not matter of which selectors the variants are. -/
theorem selectors_eq (elements : List Element) (seed : List Text) (limit : Int) :
    selectors elements seed limit = (allSelectors elements seed).take limit.toNat := by
  have hplain : (seed ++ elements.flatMap selectorsOf).foldl (addSelector limit) [] =
      (plainSelectors elements seed).take limit.toNat := by
    have h := foldl_addSelector_take limit (seed ++ elements.flatMap selectorsOf) []
    rwa [List.eraseDups_nil, List.take_nil, List.nil_append] at h
  have hself : (plainSelectors elements seed).eraseDups = plainSelectors elements seed :=
    eraseDups_eq_self (nodup_eraseDups _)
  have hspaced : ∀ s ∈ plainSelectors elements seed, Spaced s := fun s hs =>
    spaced_of_mem_written (List.mem_eraseDups.1 hs)
  have hfold := foldl_addSelector_take limit
    (variantsOf ((plainSelectors elements seed).take limit.toNat)) (plainSelectors elements seed)
  rw [hself] at hfold
  have hselectors : selectors elements seed limit =
      (variantsOf ((plainSelectors elements seed).take limit.toNat)).foldl (addSelector limit)
        ((plainSelectors elements seed).take limit.toNat) := by
    unfold selectors
    rw [hplain]
    rfl
  rw [hselectors, hfold, allSelectors]
  rcases Nat.le_total (plainSelectors elements seed).length limit.toNat with hall | hcut
  · rw [List.take_of_length_le hall, written_variantsOf hspaced]
  · rw [← hself] at hcut
    rw [take_eraseDups_append hcut, take_eraseDups_append hcut]

theorem mem_allSelectors {elements : List Element} {seed : List Text} {s : Text} :
    s ∈ allSelectors elements seed ↔
      s ∈ plainSelectors elements seed ∨ s ∈ variantsOf (plainSelectors elements seed) := by
  rw [allSelectors, List.mem_eraseDups, List.mem_append]

/-! ## Elements -/

/-- The selectors that are made of the tag, the classes and the id of one element.  An empty tag
and an empty id count as none. -/
inductive Element.Names (e : Element) : Text → Prop where
  | tag (ht : lower e.tag ≠ []) : e.Names (lower e.tag)
  | className {c : Text} (hc : c ∈ e.classes) : e.Names ('.' :: c)
  | id {i : Text} (hi : e.id = some i) (hne : i ≠ []) : e.Names ('#' :: i)
  | tagClass {c : Text} (ht : lower e.tag ≠ []) (hc : c ∈ e.classes) :
    e.Names (lower e.tag ++ '.' :: c)
  | idClass {i c : Text} (hi : e.id = some i) (hne : i ≠ []) (hc : c ∈ e.classes) :
    e.Names ('#' :: i ++ '.' :: c)

theorem mem_selectorsOf_iff {e : Element} {s : Text} : s ∈ selectorsOf e ↔ e.Names s := by
  have hids : ∀ i, i ∈ (e.id.filter (!·.isEmpty)).toList ↔ e.id = some i ∧ i ≠ [] := by
    intro i
    simp [Option.filter_eq_some_iff]
  have htag : ∀ t, s ∈ (if (lower e.tag).isEmpty then [] else [t]) ↔
      lower e.tag ≠ [] ∧ s = t := by
    intro t
    split <;> simp_all
  unfold selectorsOf
  simp only [List.mem_append, List.mem_flatMap, List.mem_map, htag, hids]
  constructor
  · rintro (((⟨ht, rfl⟩ | ⟨c, hc, rfl⟩) | ⟨i, ⟨hi, hne⟩, rfl⟩) |
      ⟨c, hc, ⟨ht, rfl⟩ | ⟨i, ⟨hi, hne⟩, rfl⟩⟩)
    · exact .tag ht
    · exact .className hc
    · exact .id hi hne
    · exact .tagClass ht hc
    · exact .idClass hi hne hc
  · intro h
    cases h with
    | tag ht => exact .inl (.inl (.inl ⟨ht, rfl⟩))
    | className hc => exact .inl (.inl (.inr ⟨_, hc, rfl⟩))
    | id hi hne => exact .inl (.inr ⟨_, ⟨hi, hne⟩, rfl⟩)
    | tagClass ht hc => exact .inr ⟨_, hc, .inl ⟨ht, rfl⟩⟩
    | idClass hi hne hc => exact .inr ⟨_, hc, .inr ⟨_, ⟨hi, hne⟩, rfl⟩⟩

theorem exists_of_mem_written {selectors : List Text} {s : Text} (h : s ∈ written selectors) :
    ∃ t ∈ selectors, squeeze t = s :=
  List.mem_map.1 (List.mem_filter.1 h).1

/-- Behind every listed selector there is one of the seed or of one element. -/
theorem exists_names_of_mem {elements : List Element} {seed : List Text} {limit : Int} {s : Text}
    (hs : s ∈ selectors elements seed limit) :
    ∃ t v, (t ∈ seed ∨ ∃ e ∈ elements, e.Names t) ∧ (v = [] ∨ v ∈ variants) ∧
      s = squeeze t ++ v := by
  have hsource : ∀ t ∈ plainSelectors elements seed,
      ∃ r, (r ∈ seed ∨ ∃ e ∈ elements, e.Names r) ∧ squeeze r = t := by
    intro t ht
    obtain ⟨r, hr, hrt⟩ := exists_of_mem_written (List.mem_eraseDups.1 ht)
    rcases List.mem_append.1 hr with hseed | helements
    · exact ⟨r, .inl hseed, hrt⟩
    · obtain ⟨e, he, hnames⟩ := List.mem_flatMap.1 helements
      exact ⟨r, .inr ⟨e, he, mem_selectorsOf_iff.1 hnames⟩, hrt⟩
  rw [selectors_eq] at hs
  rcases mem_allSelectors.1 (List.mem_of_mem_take hs) with hplain | hvariant
  · obtain ⟨r, hr, rfl⟩ := hsource s hplain
    exact ⟨r, [], hr, .inl rfl, (List.append_nil _).symm⟩
  · obtain ⟨t, ht, v, hv, rfl⟩ := mem_variantsOf.1 hvariant
    obtain ⟨r, hr, rfl⟩ := hsource t ht
    exact ⟨r, v, hr, .inr hv, rfl⟩

/-- **The list of critical selectors is the front part of one list.**  That list has the selectors
of the seed and of the elements in turn, squeezed and without the blank ones, and then the variants
of these, each at its first place only.  The limit says how much of it is taken, and a limit below
zero takes nothing.  So a larger limit only lists more, no selector is listed twice, and every
selector comes, but for its variant, from the seed or from the tokens of one element. -/
theorem selectors_eq_take (elements : List Element) (seed : List Text) :
    let stream := (seed ++ elements.flatMap selectorsOf).map squeeze
    let plain := (stream.filter (!·.isEmpty)).eraseDups
    let all := (plain ++ plain.flatMap fun s => variants.map (s ++ ·)).eraseDups
    (∀ limit, selectors elements seed limit = all.take limit.toNat) ∧
      (∀ m n, m ≤ n → selectors elements seed m <+: selectors elements seed n) ∧
        (∀ limit, (selectors elements seed limit).Nodup) ∧
          ∀ limit, ∀ s ∈ selectors elements seed limit,
            ∃ t v, (t ∈ seed ∨ ∃ e ∈ elements, e.Names t) ∧ (v = [] ∨ v ∈ variants) ∧
              s = squeeze t ++ v := by
  intro stream plain all
  refine ⟨selectors_eq elements seed, ?_, ?_, fun limit s hs => exists_names_of_mem hs⟩
  · intro m n hmn
    rw [selectors_eq, selectors_eq]
    exact List.take_prefix_take_left (Int.toNat_le_toNat hmn)
  · intro limit
    rw [selectors_eq]
    exact (nodup_eraseDups _).sublist (List.take_sublist _ _)

/-- Two elements with a class in common behind a seed that holds a variant and a blank selector.
The limits cut off in front of everything, among the selectors and among the variants. -/
theorem selectors_eq_take_variant_seed :
    let e : Element := { tag := ['P'], classes := [['a']], id := some ['i'] }
    let f : Element := { tag := [], classes := [['a'], ['b', ' ', 'c']] }
    let seed := ["p:hover".toList, [' '], " p  q".toList]
    selectors [e, f] seed (-1) = [] ∧
      selectors [e, f] seed 4 = ["p:hover".toList, "p q".toList, "p".toList, ".a".toList] ∧
        (4 : Int) ≤ 12 ∧ selectors [e, f] seed 4 <+: selectors [e, f] seed 12 ∧
          (selectors [e, f] seed 12).drop 8 = ["p:hover:hover".toList, "p:hover:focus".toList,
            "p:hover:active".toList, "p q:hover".toList] ∧
            (selectors [e, f] seed 12).Nodup ∧
              ∃ t v, (t ∈ seed ∨ ∃ x ∈ [e, f], x.Names t) ∧ (v = [] ∨ v ∈ variants) ∧
                "p q:hover".toList = squeeze t ++ v := by
  intro e f seed
  have hnone : selectors [e, f] seed (-1) = [] := by decide +kernel
  have hfour : selectors [e, f] seed 4 =
      ["p:hover".toList, "p q".toList, "p".toList, ".a".toList] := by decide +kernel
  have htwelve : (selectors [e, f] seed 12).drop 8 = ["p:hover:hover".toList,
      "p:hover:focus".toList, "p:hover:active".toList, "p q:hover".toList] := by decide +kernel
  have hmem : "p q:hover".toList ∈ selectors [e, f] seed 12 := by
    apply List.mem_of_mem_drop
    rw [htwelve]
    decide
  obtain ⟨-, hprefix, hnodup, hnames⟩ := selectors_eq_take [e, f] seed
  exact ⟨hnone, hfour, by decide, hprefix 4 12 (by decide), htwelve, hnodup 12,
    hnames 12 _ hmem⟩

end CssTrim.Critical
