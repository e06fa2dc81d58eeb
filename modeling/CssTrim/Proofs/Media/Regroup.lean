import CssTrim.Proofs.Block.Settled
import CssTrim.Proofs.Media.Combine
import Mathlib.Data.List.Nodup

/-!
# What merging does to a list of blocks

Merging goes through a list from its front and takes later blocks out of it.
This module says the same by positions in the list that goes in.  There are four
groups.

* Queries.  A merged block has the query of its members, so that it may be
  merged again.
* The inner text of a merged block: the inner texts of its members, with blank
  lines between them.
* Places.  `place` is the position that merging gives to a block, and the blocks
  that stay at their own are the leaders.  `forall₂_leads_combine` is the
  induction: the merged list holds one block for every leader, in their order.
* Lists without repeated queries, which merging leaves as they are.

`combine_regroups` puts them together.
-/

namespace CssTrim

namespace Media

/-! ## Queries -/

/-- A block keeps its query when its body is replaced. -/
@[simp] theorem query?_withBody (b : Block) (body : Text) :
    query? (b.withBody body) = query? b := rfl

/-- A merged block has the query of the first member. -/
@[simp] theorem query?_merged (g : Group) : query? g.merged = query? g.first := by
  unfold Group.merged
  split
  · rfl
  · exact query?_withBody _ _

theorem mem_membersOf_iff {q : Text} {bs : List Block} {b : Block} :
    b ∈ membersOf q bs ↔ b ∈ bs ∧ query? b = some q := by
  simp [membersOf]

theorem mem_withoutQuery_iff {q : Text} {bs : List Block} {b : Block} :
    b ∈ withoutQuery q bs ↔ b ∈ bs ∧ query? b ≠ some q := by
  simp [withoutQuery]

theorem membersOf_append (q : Text) (bs cs : List Block) :
    membersOf q (bs ++ cs) = membersOf q bs ++ membersOf q cs :=
  List.filter_append bs cs

theorem membersOf_cons_of_eq {q : Text} {b : Block} (h : query? b = some q) (bs : List Block) :
    membersOf q (b :: bs) = b :: membersOf q bs := by
  simp [membersOf, h]

theorem membersOf_cons_of_ne {q : Text} {b : Block} (h : query? b ≠ some q) (bs : List Block) :
    membersOf q (b :: bs) = membersOf q bs :=
  List.filter_cons_of_neg (by simpa using h)

theorem membersOf_concat_of_eq {q : Text} {b : Block} (h : query? b = some q) (bs : List Block) :
    membersOf q (bs ++ [b]) = membersOf q bs ++ [b] := by
  rw [membersOf_append, membersOf_cons_of_eq h]
  rfl

theorem membersOf_concat_of_ne {q : Text} {b : Block} (h : query? b ≠ some q) (bs : List Block) :
    membersOf q (bs ++ [b]) = membersOf q bs := by
  have hnil : membersOf q [b] = [] := membersOf_cons_of_ne h []
  rw [membersOf_append, hnil, List.append_nil]

theorem membersOf_eq_nil_iff {q : Text} {bs : List Block} :
    membersOf q bs = [] ↔ q ∉ bs.filterMap query? := by
  simp [membersOf, List.filter_eq_nil_iff]

theorem withoutQuery_eq_self {q : Text} {bs : List Block} (h : q ∉ bs.filterMap query?) :
    withoutQuery q bs = bs := by
  rw [withoutQuery, List.filter_eq_self]
  intro b hb
  have hne : query? b ≠ some q := fun hq => h (List.mem_filterMap.2 ⟨b, hb, hq⟩)
  simpa using hne

/-- The queries of the blocks without one query are the other queries. -/
theorem mem_filterMap_withoutQuery_iff {p q : Text} {bs : List Block} :
    p ∈ (withoutQuery q bs).filterMap query? ↔ p ≠ q ∧ p ∈ bs.filterMap query? := by
  simp only [List.mem_filterMap, mem_withoutQuery_iff]
  constructor
  · rintro ⟨b, ⟨hb, hne⟩, hquery⟩
    refine ⟨?_, b, hb, hquery⟩
    rintro rfl
    exact hne hquery
  · rintro ⟨hne, b, hb, hquery⟩
    refine ⟨b, ⟨hb, ?_⟩, hquery⟩
    rw [hquery]
    intro heq
    exact hne (Option.some.inj heq)

/-- Blocks without a query are not touched when the blocks of a query are taken out. -/
theorem filter_none_withoutQuery (q : Text) (bs : List Block) :
    (withoutQuery q bs).filter (query? · == none) = bs.filter (query? · == none) := by
  rw [withoutQuery, List.filter_filter]
  apply List.filter_congr
  intro b _
  cases query? b <;> simp

/-- Another query is not touched either. -/
theorem membersOf_withoutQuery {p q : Text} (h : p ≠ q) (bs : List Block) :
    membersOf p (withoutQuery q bs) = membersOf p bs := by
  rw [membersOf, membersOf, withoutQuery, List.filter_filter]
  apply List.filter_congr
  intro b _
  by_cases hp : query? b = some p <;> simp [hp, h]

/-- The groups of a list are its queries with all blocks that have them. -/
theorem mem_groups_iff {g : Group} {bs : List Block} :
    g ∈ groups bs ↔ membersOf g.query bs = g.members := by
  fun_induction groups bs with
  | case1 => simp [membersOf, Group.members]
  | case2 b rest hquery ih =>
    rw [ih, membersOf_cons_of_ne (by simp [hquery])]
  | case3 b rest q hquery ih =>
    obtain ⟨p, first, others⟩ := g
    rw [List.mem_cons, ih, Group.members]
    dsimp only
    by_cases hp : p = q
    · subst hp
      have hnone : membersOf p (withoutQuery p rest) = [] :=
        membersOf_eq_nil_iff.2 fun hmem => (mem_filterMap_withoutQuery_iff.1 hmem).1 rfl
      rw [membersOf_cons_of_eq hquery, hnone]
      simp [eq_comm]
    · have hne : query? b ≠ some p := by
        rw [hquery]
        exact fun h => hp (Option.some.inj h).symm
      rw [membersOf_withoutQuery hp, membersOf_cons_of_ne hne]
      simp [hp]

/-! ## The inner text of a merged block -/

/-- The inner texts of some blocks without the blanks around them, blank ones left out. -/
def inners (bs : List Block) : List Text :=
  (bs.map fun b => Text.trim b.inner).filter (!·.isEmpty)

/-- Nothing is trimmed off the inner texts of blocks. -/
theorem trim_joinWith_inners (sep : Text) (bs : List Block) :
    Text.trim (Text.joinWith sep (inners bs)) = Text.joinWith sep (inners bs) := by
  apply Text.trim_joinWith
  intro t ht
  obtain ⟨hmem, hne⟩ := List.mem_filter.1 ht
  obtain ⟨b, _, rfl⟩ := List.mem_map.1 hmem
  exact ⟨Text.trim_trim _, by simpa using hne⟩

/-- The body of a group of several members holds the inner texts of all of them, in order, with a
blank line between neighbours. -/
theorem body_merged {g : Group} (hmany : g.others ≠ []) :
    g.merged.body = '\x7b' :: (('\n' :: Text.joinWith ['\n', '\n'] (inners g.members) ++ ['\n']) ++
      ['\x7d']) := by
  rw [Group.merged, List.isEmpty_eq_false_iff.2 hmany, if_neg Bool.false_ne_true]
  simp [Block.withBody, inners]

theorem malformed_merged (g : Group) : g.merged.malformed = g.first.malformed := by
  unfold Group.merged
  split <;> rfl

theorem trim_inner_merged {g : Group} (hfirst : g.first.malformed = false)
    (hmany : g.others ≠ []) :
    Text.trim g.merged.inner = Text.joinWith ['\n', '\n'] (inners g.members) := by
  have hbreak : Text.isBlankText ['\n'] = true := by decide
  have hwell : g.merged.malformed = false := (malformed_merged g).trans hfirst
  rw [Block.inner_of_body (body_merged hmany) hwell, Text.trim_append_right_of_isBlankText _ hbreak,
    ← List.singleton_append, Text.trim_append_of_isBlankText hbreak, trim_joinWith_inners]

/-! ## Places -/

/-- The position in a list that merging gives to the block `b` at position `i`: that of the first
block with the same query, and its own where there is no query. -/
def place (bs : List Block) (b : Block) (i : Nat) : Nat :=
  match query? b with
  | some q => bs.findIdx fun c => query? c == some q
  | none => i

/-- The blocks of `bs`, a part of `whole` from position `start` on, that stay at their position. -/
def leadersFrom (whole : List Block) (start : Nat) (bs : List Block) : List Block :=
  ((bs.zipIdx start).filter fun p => place whole p.1 p.2 == p.2).map (·.1)

/-- The blocks of a list that stay at their own position: those without a query, and the first
block of every query. -/
def leaders (bs : List Block) : List Block := leadersFrom bs 0 bs

/-- What merging makes of a block that leads: itself where there is no query, and the merged block
of all blocks with its query else. -/
def Leads (bs : List Block) (b c : Block) : Prop :=
  match query? b with
  | none => c = b
  | some q => ∃ others, membersOf q bs = b :: others ∧ c = (Group.mk q b others).merged

theorem leadersFrom_cons_of_eq {whole bs : List Block} {b : Block} {start : Nat}
    (h : place whole b start = start) :
    leadersFrom whole start (b :: bs) = b :: leadersFrom whole (start + 1) bs := by
  rw [leadersFrom, List.zipIdx_cons, List.filter_cons_of_pos (by simpa using h)]
  rfl

theorem leadersFrom_cons_of_ne {whole bs : List Block} {b : Block} {start : Nat}
    (h : place whole b start ≠ start) :
    leadersFrom whole start (b :: bs) = leadersFrom whole (start + 1) bs := by
  rw [leadersFrom, List.zipIdx_cons, List.filter_cons_of_neg (by simpa using h)]
  rfl

theorem place_of_none {b : Block} (h : query? b = none) (bs : List Block) (i : Nat) :
    place bs b i = i := by
  simp only [place, h]

theorem place_of_some {b : Block} {q : Text} (h : query? b = some q) (bs : List Block) (i : Nat) :
    place bs b i = bs.findIdx fun c => query? c == some q := by
  simp only [place, h]

/-- A block whose query has not occurred before it stays at its position. -/
theorem place_eq_of_new {seen bs : List Block} {b : Block} {q : Text} (h : query? b = some q)
    (hseen : membersOf q seen = []) : place (seen ++ b :: bs) b seen.length = seen.length := by
  have hfront : seen.findIdx (fun c => query? c == some q) = seen.length := by
    rw [List.findIdx_eq_length]
    intro c hc
    have hne : query? c ≠ some q := by
      intro hq
      have hmem := mem_membersOf_iff.2 ⟨hc, hq⟩
      rw [hseen] at hmem
      exact List.not_mem_nil hmem
    exact beq_eq_false_iff_ne.2 hne
  rw [place_of_some h, List.findIdx_append, hfront, if_neg (Nat.lt_irrefl _), List.findIdx_cons, h]
  simp

/-- A block whose query has occurred before it is moved to the front. -/
theorem place_lt_of_seen {seen bs : List Block} {b : Block} {q : Text} (h : query? b = some q)
    (hseen : membersOf q seen ≠ []) : place (seen ++ b :: bs) b seen.length < seen.length := by
  obtain ⟨c, hc⟩ := List.exists_mem_of_ne_nil _ hseen
  obtain ⟨hmem, hquery⟩ := mem_membersOf_iff.1 hc
  have hlt : seen.findIdx (fun c => query? c == some q) < seen.length :=
    List.findIdx_lt_length_of_exists ⟨c, hmem, by simp [hquery]⟩
  rw [place_of_some h, List.findIdx_append, if_pos hlt]
  exact hlt

/-- The blocks of `bs` that are left when the groups of all blocks in `seen` have been taken out. -/
def remaining (seen bs : List Block) : List Block :=
  bs.filter fun b => (query? b).all fun q => (membersOf q seen).isEmpty

theorem remaining_nil (bs : List Block) : remaining [] bs = bs := by
  rw [remaining, List.filter_eq_self]
  intro b _
  cases query? b <;> rfl

/-- A block without a query takes nothing out. -/
theorem remaining_concat_of_none {b : Block} (h : query? b = none) (seen bs : List Block) :
    remaining (seen ++ [b]) bs = remaining seen bs := by
  have hsame : ∀ q, membersOf q (seen ++ [b]) = membersOf q seen := by
    intro q
    apply membersOf_concat_of_ne
    rw [h]
    simp
  unfold remaining
  simp only [hsame]

/-- A block whose query has occurred before takes nothing more out. -/
theorem remaining_concat_of_seen {b : Block} {q : Text} (h : query? b = some q)
    {seen : List Block} (hseen : membersOf q seen ≠ []) (bs : List Block) :
    remaining (seen ++ [b]) bs = remaining seen bs := by
  have hsame : ∀ p, (membersOf p (seen ++ [b])).isEmpty = (membersOf p seen).isEmpty := by
    intro p
    by_cases hp : query? b = some p
    · obtain rfl : q = p := Option.some.inj (h.symm.trans hp)
      rw [membersOf_concat_of_eq h, List.isEmpty_eq_false_iff.2 hseen]
      simp
    · rw [membersOf_concat_of_ne hp]
  unfold remaining
  simp only [hsame]

/-- A block with a new query takes its group out. -/
theorem remaining_concat_of_some {b : Block} {q : Text} (h : query? b = some q)
    (seen bs : List Block) :
    remaining (seen ++ [b]) bs = withoutQuery q (remaining seen bs) := by
  rw [remaining, remaining, withoutQuery, List.filter_filter]
  apply List.filter_congr
  intro c _
  cases query? c with
  | none => rfl
  | some p =>
    by_cases hp : query? b = some p
    · obtain rfl : q = p := Option.some.inj (h.symm.trans hp)
      simp [membersOf_concat_of_eq h]
    · have hne : p ≠ q := by
        rintro rfl
        exact hp h
      simp [membersOf_concat_of_ne hp, hne]

theorem membersOf_remaining {seen : List Block} {q : Text} (hseen : membersOf q seen = [])
    (bs : List Block) : membersOf q (remaining seen bs) = membersOf q bs := by
  rw [membersOf, membersOf, remaining, List.filter_filter]
  apply List.filter_congr
  intro c _
  by_cases hq : query? c = some q
  · simp [hq, hseen]
  · simp [hq]

/-- The induction over a list whose front part `seen` has been gone through. -/
theorem forall₂_leads_remaining (seen bs : List Block) :
    List.Forall₂ (Leads (seen ++ bs)) (leadersFrom (seen ++ bs) seen.length bs)
      (combine (remaining seen bs)) := by
  induction bs generalizing seen with
  | nil =>
    rw [remaining, List.filter_nil, combine]
    exact .nil
  | cons b bs ih =>
    have hnext := ih (seen ++ [b])
    rw [List.append_assoc, List.singleton_append, List.length_append, List.length_singleton]
      at hnext
    cases hquery : query? b with
    | none =>
      have hleads : Leads (seen ++ b :: bs) b b := by simp only [Leads, hquery]
      have hkept : remaining seen (b :: bs) = b :: remaining seen bs :=
        List.filter_cons_of_pos (by simp [hquery])
      rw [leadersFrom_cons_of_eq (place_of_none hquery _ _), hkept, combine, hquery]
      rw [remaining_concat_of_none hquery] at hnext
      exact .cons hleads hnext
    | some q =>
      by_cases hseen : membersOf q seen = []
      · have hmembers : membersOf q (seen ++ b :: bs) = b :: membersOf q bs := by
          rw [membersOf_append, hseen, List.nil_append, membersOf_cons_of_eq hquery]
        have hleads : Leads (seen ++ b :: bs) b (Group.mk q b (membersOf q bs)).merged := by
          simp only [Leads, hquery]
          exact ⟨_, hmembers, rfl⟩
        have hkept : remaining seen (b :: bs) = b :: remaining seen bs :=
          List.filter_cons_of_pos (by simp [hquery, hseen])
        rw [leadersFrom_cons_of_eq (place_eq_of_new hquery hseen), hkept, combine, hquery]
        dsimp only
        rw [membersOf_remaining hseen, ← remaining_concat_of_some hquery]
        exact .cons hleads hnext
      · have hplace : place (seen ++ b :: bs) b seen.length < seen.length :=
          place_lt_of_seen hquery hseen
        have hdropped : remaining seen (b :: bs) = remaining seen bs :=
          List.filter_cons_of_neg (by simp [hquery, hseen])
        rw [leadersFrom_cons_of_ne (Nat.ne_of_lt hplace), hdropped]
        rw [remaining_concat_of_seen hquery hseen] at hnext
        exact hnext

/-- **Where merged blocks stand.**  The merged list holds one block for every leader, in the order
of the leaders. -/
theorem forall₂_leads_combine (bs : List Block) :
    List.Forall₂ (Leads bs) (leaders bs) (combine bs) := by
  have h := forall₂_leads_remaining [] bs
  rwa [remaining_nil] at h

/-! ## Lists without repeated queries -/

/-- Merging keeps the blocks without a query, in order. -/
theorem filter_none_combine (bs : List Block) :
    (combine bs).filter (query? · == none) = bs.filter (query? · == none) := by
  fun_induction combine bs with
  | case1 => rfl
  | case2 b rest hquery ih =>
    rw [List.filter_cons_of_pos (by simp [hquery]), List.filter_cons_of_pos (by simp [hquery]), ih]
  | case3 b rest q hquery ih =>
    rw [List.filter_cons_of_neg (by simp [hquery]), List.filter_cons_of_neg (by simp [hquery]), ih,
      filter_none_withoutQuery]

theorem mem_filterMap_combine_iff {p : Text} {bs : List Block} :
    p ∈ (combine bs).filterMap query? ↔ p ∈ bs.filterMap query? := by
  fun_induction combine bs with
  | case1 => rfl
  | case2 b rest hquery ih =>
    rw [List.filterMap_cons_none hquery, List.filterMap_cons_none hquery, ih]
  | case3 b rest q hquery ih =>
    have hmerged : query? (Group.mk q b (membersOf q rest)).merged = some q := by
      rw [query?_merged, hquery]
    rw [List.filterMap_cons_some hmerged, List.filterMap_cons_some hquery, List.mem_cons,
      List.mem_cons, ih, mem_filterMap_withoutQuery_iff]
    by_cases hp : p = q <;> simp [hp]

/-- No query occurs twice in a merged list. -/
theorem nodup_filterMap_combine (bs : List Block) : ((combine bs).filterMap query?).Nodup := by
  fun_induction combine bs with
  | case1 => exact List.nodup_nil
  | case2 b rest hquery ih => rwa [List.filterMap_cons_none hquery]
  | case3 b rest q hquery ih =>
    have hmerged : query? (Group.mk q b (membersOf q rest)).merged = some q := by
      rw [query?_merged, hquery]
    rw [List.filterMap_cons_some hmerged, List.nodup_cons, mem_filterMap_combine_iff,
      mem_filterMap_withoutQuery_iff]
    exact ⟨fun h => h.1 rfl, ih⟩

/-- There is nothing to merge where no query occurs twice. -/
theorem combine_eq_self {bs : List Block} (h : (bs.filterMap query?).Nodup) : combine bs = bs := by
  induction bs with
  | nil => rw [combine]
  | cons b bs ih =>
    cases hquery : query? b with
    | none =>
      rw [List.filterMap_cons_none hquery] at h
      rw [combine, hquery]
      dsimp only
      rw [ih h]
    | some q =>
      rw [List.filterMap_cons_some hquery, List.nodup_cons] at h
      rw [combine, hquery]
      dsimp only
      rw [withoutQuery_eq_self h.1, ih h.2, membersOf_eq_nil_iff.2 h.1]
      rfl

theorem saved_eq_zero {bs : List Block} (h : (bs.filterMap query?).Nodup) : saved bs = 0 := by
  have hsaved := saved_add_length_combine bs
  rw [combine_eq_self h] at hsaved
  omega

/-! ## The merged list -/

/-- What the block `c` of a merged list has from the block `b` of `bs` whose place it takes. -/
structure StandsFor (bs : List Block) (b c : Block) : Prop where
  query : query? c = query? b
  header : c.header = b.header
  /-- A block that is alone with its query, or has none, is not changed. -/
  unchanged : (∀ q, query? b = some q → membersOf q bs = [b]) → c = b
  /-- A block that shares its query holds the inner texts of all blocks with this query. -/
  inner : ∀ q, query? b = some q → 2 ≤ (membersOf q bs).length →
    Text.trim c.inner = Text.joinWith ['\n', '\n'] (inners (membersOf q bs))

theorem header_merged (g : Group) : g.merged.header = g.first.header := by
  unfold Group.merged
  split <;> rfl

theorem StandsFor.of_leads {bs : List Block} {b c : Block} (h : Leads bs b c) :
    StandsFor bs b c := by
  cases hquery : query? b with
  | none =>
    obtain rfl : c = b := by simpa only [Leads, hquery] using h
    refine ⟨rfl, rfl, fun _ => rfl, ?_⟩
    intro q hq
    rw [hquery] at hq
    cases hq
  | some q =>
    obtain ⟨others, hmembers, rfl⟩ : ∃ others, membersOf q bs = b :: others ∧
        c = (Group.mk q b others).merged := by
      simpa only [Leads, hquery] using h
    refine ⟨query?_merged _, header_merged _, ?_, ?_⟩
    · intro halone
      have hone : b :: others = [b] := hmembers.symm.trans (halone q hquery)
      obtain ⟨-, rfl⟩ := List.cons.inj hone
      rfl
    · intro p hp hmany
      obtain rfl : q = p := Option.some.inj (hquery.symm.trans hp)
      rw [hmembers] at hmany ⊢
      have hothers : others ≠ [] := by
        rintro rfl
        simp at hmany
      have hwell : b.malformed = false := malformed_of_query?_eq_some hquery
      exact @trim_inner_merged ⟨q, b, others⟩ hwell hothers

/-- **Merging regroups a list and loses nothing.**  It saves as many blocks as the list gets
shorter.  Blocks without a query are kept as they are, in order; every query of the list occurs
once; the blocks stand in the order of the leaders, each for its leader; and merging once more does
nothing. -/
theorem combine_regroups (bs : List Block) :
    (saved bs : Int) = bs.length - (combine bs).length ∧
      (combine bs).filter (query? · == none) = bs.filter (query? · == none) ∧
      ((combine bs).filterMap query?).Nodup ∧
      (∀ q, q ∈ (combine bs).filterMap query? ↔ q ∈ bs.filterMap query?) ∧
      List.Forall₂ (StandsFor bs) (leaders bs) (combine bs) ∧
      saved (combine bs) = 0 ∧ combine (combine bs) = combine bs := by
  have hcount := saved_add_length_combine bs
  have hnodup := nodup_filterMap_combine bs
  have hstands : List.Forall₂ (StandsFor bs) (leaders bs) (combine bs) :=
    (forall₂_leads_combine bs).imp fun _ _ => StandsFor.of_leads
  refine ⟨by omega, filter_none_combine bs, hnodup, fun _ => mem_filterMap_combine_iff, hstands,
    saved_eq_zero hnodup, combine_eq_self hnodup⟩

end Media

end CssTrim
