import CssTrim.Proofs.Media.Nested

/-!
# Merging and the order of rules

Of two rules with the same selectors the later one wins, so a stylesheet means
what the sequence of its rules means.  There are four groups.

* Lists sorted by a number.  `byPlace` sorts stably, by one pass for every
  number.
* The rules of a list of blocks, with the query that they stand under.  `placed`
  pairs every rule with the place that merging gives to its block.
* Blocks that are placed together are those that are merged.
* `flatten_combine` puts them together: merging sorts the rules stably by place.
  Rules under the same query therefore keep their order.  The rules with one
  selector keep theirs exactly when they are sorted by place already, and
  `flatten_combine_overtakes` is a stylesheet where they are not.
-/

namespace CssTrim

namespace Media

/-! ## Lists sorted by a number -/

section ByPlace

variable {α κ : Type} [BEq κ] [LawfulBEq κ]

/-- The entries of a list with a number below `n`, sorted by number.  Entries with the same number
keep their order. -/
def byPlace (n : Nat) (xs : List (Nat × α)) : List (Nat × α) :=
  (List.range n).flatMap fun i => xs.filter (·.1 == i)

theorem filter_byPlace (n : Nat) (p : Nat × α → Bool) (xs : List (Nat × α)) :
    (byPlace n xs).filter p = byPlace n (xs.filter p) := by
  rw [byPlace, byPlace, List.filter_flatMap]
  apply List.flatMap_congr
  intro i _
  exact List.filter_comm _ _ xs

theorem pairwise_byPlace (n : Nat) (xs : List (Nat × α)) :
    (byPlace n xs).Pairwise (·.1 ≤ ·.1) := by
  rw [byPlace, List.pairwise_flatMap]
  constructor
  · intro i _
    apply List.pairwise_of_forall_mem_list
    intro x hx y hy
    have hxi := beq_iff_eq.1 (List.mem_filter.1 hx).2
    have hyi := beq_iff_eq.1 (List.mem_filter.1 hy).2
    omega
  · refine List.pairwise_lt_range.imp ?_
    intro i j hij x hx y hy
    have hxi := beq_iff_eq.1 (List.mem_filter.1 hx).2
    have hyj := beq_iff_eq.1 (List.mem_filter.1 hy).2
    omega

/-- An entry in front, with no smaller number behind it, comes out first. -/
theorem byPlace_cons {n : Nat} {x : Nat × α} {xs : List (Nat × α)} (hx : x.1 < n)
    (hxs : ∀ y ∈ xs, x.1 ≤ y.1) : byPlace n (x :: xs) = x :: byPlace n xs := by
  obtain ⟨front, back, hsplit⟩ := List.append_of_mem (List.mem_range.2 hx)
  have hincreasing : (front ++ x.1 :: back).Pairwise (· < ·) := by
    rw [← hsplit]
    exact List.pairwise_lt_range
  obtain ⟨-, hback, hfront⟩ := List.pairwise_append.1 hincreasing
  have hbefore : ∀ i ∈ front, (x :: xs).filter (·.1 == i) = xs.filter (·.1 == i) ∧
      xs.filter (·.1 == i) = [] := by
    intro i hi
    have hlt : i < x.1 := hfront i hi x.1 List.mem_cons_self
    constructor
    · exact List.filter_cons_of_neg (by simp; omega)
    · rw [List.filter_eq_nil_iff]
      intro y hy hyi
      have hle := hxs y hy
      have heq := beq_iff_eq.1 hyi
      omega
  have hafter : ∀ i ∈ back, (x :: xs).filter (·.1 == i) = xs.filter (·.1 == i) := by
    intro i hi
    have hlt : x.1 < i := (List.pairwise_cons.1 hback).1 i hi
    exact List.filter_cons_of_neg (by simp; omega)
  have hnone : front.flatMap (fun i => xs.filter (·.1 == i)) = [] :=
    List.flatMap_eq_nil_iff.2 fun i hi => (hbefore i hi).2
  rw [byPlace, byPlace, hsplit, List.flatMap_append, List.flatMap_append, List.flatMap_cons,
    List.flatMap_cons, List.flatMap_congr (fun i hi => (hbefore i hi).1), hnone,
    List.flatMap_congr hafter, List.filter_cons_of_pos (by simp)]
  rfl

/-- A list is not changed exactly when it is sorted already. -/
theorem byPlace_eq_self_iff {n : Nat} {xs : List (Nat × α)} (hbound : ∀ x ∈ xs, x.1 < n) :
    byPlace n xs = xs ↔ xs.Pairwise (·.1 ≤ ·.1) := by
  constructor
  · intro h
    rw [← h]
    exact pairwise_byPlace n xs
  · intro hsorted
    induction xs with
    | nil => simp [byPlace]
    | cons x xs ih =>
      obtain ⟨hx, hxs⟩ := List.forall_mem_cons.1 hbound
      obtain ⟨hle, htail⟩ := List.pairwise_cons.1 hsorted
      rw [byPlace_cons hx hle, ih hxs htail]

/-- Lists with the same classes at the same positions and the same members of every class are the
same. -/
theorem eq_of_classes_eq {f : α → κ} {xs ys : List α} (hclasses : xs.map f = ys.map f)
    (hmembers : ∀ c, xs.filter (f · == c) = ys.filter (f · == c)) : xs = ys := by
  induction xs generalizing ys with
  | nil => exact (List.map_eq_nil_iff.1 hclasses.symm).symm
  | cons x xs ih =>
    cases ys with
    | nil => cases hclasses
    | cons y ys =>
      rw [List.map_cons, List.map_cons] at hclasses
      obtain ⟨hclass, hrest⟩ := List.cons.inj hclasses
      have hhead := hmembers (f x)
      rw [List.filter_cons_of_pos (by simp), List.filter_cons_of_pos (by simp [hclass])] at hhead
      obtain ⟨rfl, -⟩ := List.cons.inj hhead
      refine congrArg (x :: ·) (ih hrest ?_)
      intro c
      have hc := hmembers c
      by_cases hx : f x = c
      · rw [List.filter_cons_of_pos (by simp [hx]), List.filter_cons_of_pos (by simp [hx])] at hc
        exact (List.cons.inj hc).2
      · rw [List.filter_cons_of_neg (by simp [hx]), List.filter_cons_of_neg (by simp [hx])] at hc
        exact hc

end ByPlace

/-! ## The rules of a list of blocks -/

/-- A style rule, with the query of the media block that it is nested in, if any. -/
structure ScopedRule where
  query : Option Text
  selectors : Text
  body : Text
  deriving DecidableEq

/-- Whether a block is a style rule. -/
def isStyleRule (b : Block) : Bool := !b.isAtRule && !b.passthrough

/-- The style rules that are nested in a media block; a style rule itself. -/
def rulesOf (b : Block) : List ScopedRule :=
  match query? b with
  | some q => (b.segmentInner.filter isStyleRule).map fun i => ⟨some q, i.selectors, i.body⟩
  | none => if isStyleRule b then [⟨none, b.selectors, b.body⟩] else []

/-- The rules of a list of blocks, in order. -/
def flatten (bs : List Block) : List ScopedRule := bs.flatMap rulesOf

/-- The rules of a list of blocks, in order, with the places of their blocks in the merged list. -/
def placed (bs : List Block) : List (Nat × ScopedRule) :=
  bs.zipIdx.flatMap fun x => (rulesOf x.1).map (place bs x.1 x.2, ·)

theorem map_snd_placed (bs : List Block) : (placed bs).map (·.2) = flatten bs := by
  have hrules : ∀ x : Block × Nat,
      ((rulesOf x.1).map (place bs x.1 x.2, ·)).map (·.2) = rulesOf x.1 := by
    intro x
    rw [List.map_map]
    exact List.map_id _
  rw [placed, List.map_flatMap, flatten]
  simp only [hrules]
  rw [← List.flatMap_map (fun x : Block × Nat => x.1) rulesOf, List.zipIdx_map_fst]

/-- A rule stands under the query of its block. -/
theorem query_of_mem_rulesOf {b : Block} {r : ScopedRule} (hr : r ∈ rulesOf b) :
    r.query = query? b := by
  rw [rulesOf] at hr
  split at hr
  · rename_i q hquery
    obtain ⟨i, _, rfl⟩ := List.mem_map.1 hr
    exact hquery.symm
  · rename_i hquery
    split at hr
    · obtain rfl := List.mem_singleton.1 hr
      exact hquery.symm
    · exact absurd hr List.not_mem_nil

theorem mem_placed {bs : List Block} {x : Nat × ScopedRule} (hx : x ∈ placed bs) :
    ∃ b j, bs[j]? = some b ∧ x.1 = place bs b j ∧ x.2.query = query? b := by
  obtain ⟨⟨b, j⟩, hb, hr⟩ := List.mem_flatMap.1 hx
  obtain ⟨r, hmem, rfl⟩ := List.mem_map.1 hr
  exact ⟨b, j, List.mem_zipIdx_iff_getElem?.1 hb, rfl, query_of_mem_rulesOf hmem⟩

/-! ## Blocks that are placed together -/

section Place

variable {bs : List Block} {b c : Block} {i j : Nat}

/-- Blocks with the same query are placed together. -/
theorem place_eq_of_query?_eq {q : Text} (hb : query? b = some q) (hc : query? c = some q) :
    place bs b i = place bs c j := by
  rw [place_of_some hb, place_of_some hc]

/-- The block at the place of another one has the same query. -/
theorem query?_eq_of_place_eq (hb : bs[i]? = some b) (hc : bs[j]? = some c)
    (hplace : place bs c j = i) : query? b = query? c := by
  cases hquery : query? c with
  | none =>
    rw [place_of_none hquery] at hplace
    subst hplace
    obtain rfl := Option.some.inj (hb.symm.trans hc)
    exact hquery
  | some q =>
    rw [place_of_some hquery] at hplace
    subst hplace
    obtain ⟨hlt, hget⟩ := List.getElem?_eq_some_iff.1 hb
    rw [← hget]
    exact beq_iff_eq.1 (@List.findIdx_getElem _ (fun c => query? c == some q) bs hlt)

theorem place_lt_length (hb : bs[i]? = some b) : place bs b i < bs.length := by
  cases hquery : query? b with
  | none =>
    rw [place_of_none hquery]
    exact (List.getElem?_eq_some_iff.1 hb).1
  | some q =>
    rw [place_of_some hquery]
    exact List.findIdx_lt_length_of_exists ⟨b, List.mem_of_getElem? hb, by simp [hquery]⟩

end Place

/-- The blocks that merging places at a position. -/
def placedAt (bs : List Block) (i : Nat) : List Block :=
  (bs.zipIdx.filter fun x => place bs x.1 x.2 == i).map (·.1)

theorem rules_placedAt (bs : List Block) (i : Nat) :
    ((placed bs).filter (·.1 == i)).map (·.2) = (placedAt bs i).flatMap rulesOf := by
  rw [placed, placedAt]
  induction bs.zipIdx with
  | nil => rfl
  | cons x xs ih =>
    rw [List.flatMap_cons, List.filter_append, List.map_append, ih]
    by_cases hx : place bs x.1 x.2 = i
    · have hall : ((rulesOf x.1).map (place bs x.1 x.2, ·)).filter (·.1 == i) =
          (rulesOf x.1).map (place bs x.1 x.2, ·) := by
        simp [List.filter_map, Function.comp_def, hx]
      rw [hall, List.filter_cons_of_pos (by simpa using hx), List.map_cons, List.flatMap_cons,
        List.map_map]
      exact congrArg (· ++ _) (List.map_id _)
    · have hnone : ((rulesOf x.1).map (place bs x.1 x.2, ·)).filter (·.1 == i) = [] := by
        simp [List.filter_map, Function.comp_def, hx]
      rw [hnone, List.filter_cons_of_neg (by simpa using hx)]
      rfl

/-- At one position of a list stands one block. -/
theorem filter_zipIdx_eq {bs : List Block} {b : Block} {i : Nat} (hb : bs[i]? = some b)
    (start : Nat) : (bs.zipIdx start).filter (·.2 == start + i) = [(b, start + i)] := by
  induction bs generalizing i start with
  | nil => cases hb
  | cons c bs ih =>
    rw [List.zipIdx_cons]
    cases i with
    | zero =>
      obtain rfl : c = b := by simpa using hb
      rw [List.filter_cons_of_pos (by simp), Nat.add_zero, List.filter_eq_nil_iff.2]
      intro x hx hstart
      have hle := List.le_snd_of_mem_zipIdx hx
      have heq := beq_iff_eq.1 hstart
      omega
    | succ i =>
      have hrest := ih (by simpa using hb) (start + 1)
      rw [List.filter_cons_of_neg (by simp), Nat.add_right_comm] at *
      exact hrest

theorem placedAt_of_none {bs : List Block} {b : Block} {i : Nat} (hb : bs[i]? = some b)
    (hquery : query? b = none) : placedAt bs i = [b] := by
  have hone := filter_zipIdx_eq hb 0
  rw [Nat.zero_add] at hone
  have hfilter : bs.zipIdx.filter (fun x => place bs x.1 x.2 == i) =
      bs.zipIdx.filter (·.2 == i) := by
    apply List.filter_congr
    rintro ⟨c, j⟩ hc
    rw [Bool.eq_iff_iff, beq_iff_eq, beq_iff_eq]
    have hget := List.mem_zipIdx_iff_getElem?.1 hc
    constructor
    · intro hplace
      have hsame := query?_eq_of_place_eq hb hget hplace
      rw [hquery] at hsame
      rwa [place_of_none hsame.symm] at hplace
    · rintro rfl
      obtain rfl := Option.some.inj (hb.symm.trans hget)
      exact place_of_none hquery _ _
  rw [placedAt, hfilter, hone]
  rfl

theorem placedAt_of_some {bs : List Block} {b : Block} {i : Nat} {q : Text} (hb : bs[i]? = some b)
    (hquery : query? b = some q) (hplace : place bs b i = i) : placedAt bs i = membersOf q bs := by
  have hfilter : bs.zipIdx.filter (fun x => place bs x.1 x.2 == i) =
      bs.zipIdx.filter ((fun c => query? c == some q) ∘ Prod.fst) := by
    apply List.filter_congr
    rintro ⟨c, j⟩ hc
    rw [Bool.eq_iff_iff, beq_iff_eq]
    have hget := List.mem_zipIdx_iff_getElem?.1 hc
    constructor
    · intro hc
      have hsame := query?_eq_of_place_eq hb hget hc
      exact beq_iff_eq.2 (hsame.symm.trans hquery)
    · intro hc
      exact (place_eq_of_query?_eq (beq_iff_eq.1 hc) hquery).trans hplace
  rw [placedAt, hfilter, ← List.filter_map, List.zipIdx_map_fst, membersOf]

theorem placedAt_of_place_ne {bs : List Block} {b : Block} {i : Nat} (hb : bs[i]? = some b)
    (hplace : place bs b i ≠ i) : placedAt bs i = [] := by
  rw [placedAt, List.map_eq_nil_iff, List.filter_eq_nil_iff]
  rintro ⟨c, j⟩ hc heq
  have hget := List.mem_zipIdx_iff_getElem?.1 hc
  have hcplace := beq_iff_eq.1 heq
  have hsame := query?_eq_of_place_eq hb hget hcplace
  cases hquery : query? b with
  | none => exact hplace (place_of_none hquery _ _)
  | some q => exact hplace ((place_eq_of_query?_eq hquery (hsame.symm.trans hquery)).trans hcplace)

/-! ## The rules of a merged list -/

/-- Blocks that agree hold the same rules. -/
theorem map_filter_isStyleRule_eq (q : Option Text) {xs ys : List Block}
    (h : List.Forall₂ Block.Agrees xs ys) (hwell : ∀ y ∈ ys, y.malformed = false) :
    (xs.filter isStyleRule).map (fun i => ScopedRule.mk q i.selectors i.body) =
      (ys.filter isStyleRule).map fun i => ScopedRule.mk q i.selectors i.body := by
  induction h with
  | nil => rfl
  | @cons x y xs ys hxy _ ih =>
    obtain ⟨hy, hwell⟩ := List.forall_mem_cons.1 hwell
    have hkind : isStyleRule x = isStyleRule y := by
      rw [isStyleRule, isStyleRule, Block.isAtRule, Block.isAtRule, hxy.keyword, hxy.passthrough]
    rw [List.filter_cons, List.filter_cons, hkind]
    split
    · rw [List.map_cons, List.map_cons, ih hwell, hxy.selectors, hxy.body hy]
    · exact ih hwell

theorem rulesOf_of_some {b : Block} {q : Text} (h : query? b = some q) :
    rulesOf b = (b.segmentInner.filter isStyleRule).map fun i => ⟨some q, i.selectors, i.body⟩ := by
  simp only [rulesOf, h]

/-- A merged block holds the rules of its members, one member after the other. -/
theorem rulesOf_merged {css : Text} {q : Text} {first : Block} {others : List Block}
    (hmembers : membersOf q (Block.segment css) = first :: others)
    (hsettled : Settled (membersOf q (Block.segment css))) :
    rulesOf (Group.mk q first others).merged =
      (membersOf q (Block.segment css)).flatMap rulesOf := by
  have hfirst : first ∈ membersOf q (Block.segment css) := by
    rw [hmembers]
    exact List.mem_cons_self
  have hquery : query? (Group.mk q first others).merged = some q :=
    (query?_merged _).trans (mem_membersOf_iff.1 hfirst).2
  have hwell : ∀ i ∈ (membersOf q (Block.segment css)).flatMap Block.segmentInner,
      i.malformed = false := by
    intro i hi
    obtain ⟨b, hb, hib⟩ := List.mem_flatMap.1 hi
    obtain ⟨hmem, hq⟩ := mem_membersOf_iff.1 hb
    exact Block.malformed_of_mem_segmentInner hmem (passthrough_of_query?_eq_some hq)
      (malformed_of_query?_eq_some hq) hib
  rw [rulesOf_of_some hquery,
    map_filter_isStyleRule_eq _ (forall₂_agrees_segmentInner_merged hmembers hsettled) hwell,
    List.filter_flatMap, List.map_flatMap]
  apply List.flatMap_congr
  intro b hb
  exact (rulesOf_of_some (mem_membersOf_iff.1 hb).2).symm

/-- The block that stands for a leader holds the rules that merging places at its position. -/
theorem rulesOf_of_leads {css : Text}
    (hsettled : ∀ q ∈ (Block.segment css).filterMap query?,
      Settled (membersOf q (Block.segment css)))
    {b m : Block} {i : Nat} (hb : (Block.segment css)[i]? = some b)
    (hplace : place (Block.segment css) b i = i) (hleads : Leads (Block.segment css) b m) :
    rulesOf m = (placedAt (Block.segment css) i).flatMap rulesOf := by
  cases hquery : query? b with
  | none =>
    obtain rfl : m = b := by simpa only [Leads, hquery] using hleads
    rw [placedAt_of_none hb hquery, List.flatMap_singleton]
  | some q =>
    obtain ⟨others, hmembers, rfl⟩ : ∃ others, membersOf q (Block.segment css) = b :: others ∧
        m = (Group.mk q b others).merged := by
      simpa only [Leads, hquery] using hleads
    have hq : q ∈ (Block.segment css).filterMap query? :=
      List.mem_filterMap.2 ⟨b, List.mem_of_getElem? hb, hquery⟩
    rw [placedAt_of_some hb hquery hplace, rulesOf_merged hmembers (hsettled q hq)]

theorem flatMap_filter_eq {α β : Type} {p : α → Bool} {f : α → List β} {xs : List α}
    (h : ∀ x ∈ xs, p x = false → f x = []) : (xs.filter p).flatMap f = xs.flatMap f := by
  induction xs with
  | nil => rfl
  | cons x xs ih =>
    obtain ⟨hx, hxs⟩ := List.forall_mem_cons.1 h
    cases hp : p x with
    | true => rw [List.filter_cons_of_pos hp, List.flatMap_cons, List.flatMap_cons, ih hxs]
    | false =>
      rw [List.filter_cons_of_neg (by simp [hp]), List.flatMap_cons, hx hp, List.nil_append,
        ih hxs]

theorem flatMap_eq_of_forall₂ {α β γ : Type} {f : α → List γ} {g : β → List γ} {xs : List α}
    {ys : List β} (h : List.Forall₂ (fun x y => f x = g y) xs ys) :
    xs.flatMap f = ys.flatMap g := by
  induction h with
  | nil => rfl
  | cons hxy _ ih => rw [List.flatMap_cons, List.flatMap_cons, hxy, ih]

/-- The rules of a merged list are the rules of the list that goes in, sorted by place.  The blocks
of the merged list stand for the leaders, and nothing is placed at other positions. -/
theorem flatten_combine_eq {css : Text}
    (hsettled : ∀ q ∈ (Block.segment css).filterMap query?,
      Settled (membersOf q (Block.segment css))) :
    flatten (combine (Block.segment css)) =
      (byPlace (Block.segment css).length (placed (Block.segment css))).map (·.2) := by
  have hleads := forall₂_leads_combine (Block.segment css)
  rw [leaders, leadersFrom, List.forall₂_map_left_iff] at hleads
  have hrules : List.Forall₂
      (fun x m => (placedAt (Block.segment css) x.2).flatMap rulesOf = rulesOf m)
      ((Block.segment css).zipIdx.filter fun x => place (Block.segment css) x.1 x.2 == x.2)
      (combine (Block.segment css)) := by
    refine ((List.forall₂_and_left _ _).2 ⟨fun _ hx => hx, hleads⟩).imp ?_
    rintro ⟨b, i⟩ m ⟨hmem, hm⟩
    obtain ⟨hb, hplace⟩ := List.mem_filter.1 hmem
    exact (rulesOf_of_leads hsettled (List.mem_zipIdx_iff_getElem?.1 hb)
      (beq_iff_eq.1 hplace) hm).symm
  have hskip : ∀ x ∈ (Block.segment css).zipIdx,
      (place (Block.segment css) x.1 x.2 == x.2) = false →
        (placedAt (Block.segment css) x.2).flatMap rulesOf = [] := by
    rintro ⟨b, i⟩ hb hplace
    rw [placedAt_of_place_ne (List.mem_zipIdx_iff_getElem?.1 hb) (beq_eq_false_iff_ne.1 hplace)]
    rfl
  calc flatten (combine (Block.segment css))
      = ((Block.segment css).zipIdx.filter fun x =>
          place (Block.segment css) x.1 x.2 == x.2).flatMap fun x =>
            (placedAt (Block.segment css) x.2).flatMap rulesOf :=
        (flatMap_eq_of_forall₂ hrules).symm
    _ = (Block.segment css).zipIdx.flatMap fun x =>
          (placedAt (Block.segment css) x.2).flatMap rulesOf := flatMap_filter_eq hskip
    _ = (List.range (Block.segment css).length).flatMap fun i =>
          (placedAt (Block.segment css) i).flatMap rulesOf := by
        rw [List.range_eq_range', ← List.zipIdx_map_snd, List.flatMap_map]
    _ = (byPlace (Block.segment css).length (placed (Block.segment css))).map (·.2) := by
        rw [byPlace, List.map_flatMap]
        exact List.flatMap_congr fun i _ => (rules_placedAt _ i).symm

theorem lt_length_of_mem_placed {bs : List Block} {x : Nat × ScopedRule} (hx : x ∈ placed bs) :
    x.1 < bs.length := by
  obtain ⟨b, j, hb, hplace, -⟩ := mem_placed hx
  rw [hplace]
  exact place_lt_length hb

/-- The rules under one query are sorted by place. -/
theorem pairwise_placed_of_query (bs : List Block) (c : Option Text) :
    ((placed bs).filter (·.2.query == c)).Pairwise (·.1 ≤ ·.1) := by
  cases c with
  | some q =>
    apply List.pairwise_of_forall_mem_list
    intro x hx y hy
    obtain ⟨hx, hxq⟩ := List.mem_filter.1 hx
    obtain ⟨hy, hyq⟩ := List.mem_filter.1 hy
    obtain ⟨b, i, _, hxplace, hxquery⟩ := mem_placed hx
    obtain ⟨d, j, _, hyplace, hyquery⟩ := mem_placed hy
    rw [hxplace, hyplace, place_of_some (hxquery.symm.trans (beq_iff_eq.1 hxq)),
      place_of_some (hyquery.symm.trans (beq_iff_eq.1 hyq))]
  | none =>
    have hblock : ∀ x : Block × Nat, ∀ y ∈
        ((rulesOf x.1).map (place bs x.1 x.2, ·)).filter (·.2.query == none), y.1 = x.2 := by
      rintro ⟨b, i⟩ y hy
      obtain ⟨hy, hyq⟩ := List.mem_filter.1 hy
      obtain ⟨r, hr, rfl⟩ := List.mem_map.1 hy
      exact place_of_none ((query_of_mem_rulesOf hr).symm.trans (beq_iff_eq.1 hyq)) _ _
    have hindices : (bs.zipIdx.map Prod.snd).Pairwise (· < ·) := by
      rw [List.zipIdx_map_snd]
      exact List.pairwise_lt_range'
    rw [placed, List.filter_flatMap, List.pairwise_flatMap]
    constructor
    · intro x _
      apply List.pairwise_of_forall_mem_list
      intro y hy z hz
      rw [hblock x y hy, hblock x z hz]
    · refine (List.pairwise_map.1 hindices).imp ?_
      intro x y hlt v hv w hw
      rw [hblock x v hv, hblock y w hw]
      exact Nat.le_of_lt hlt

/-- **Merging sorts the rules of a stylesheet by place.**  The sort is stable.  Rules under the same
query, and rules outside media blocks, keep their order.  The rules with one selector keep theirs
exactly when none of them is placed in front of an earlier one. -/
theorem flatten_combine (css : Text)
    (hsettled : ∀ q ∈ (Block.segment css).filterMap query?,
      Settled (membersOf q (Block.segment css))) :
    let bs := Block.segment css
    flatten (combine bs) = (byPlace bs.length (placed bs)).map (·.2) ∧
      (∀ c : Option Text, (flatten (combine bs)).filter (·.query == c) =
        (flatten bs).filter (·.query == c)) ∧
      ∀ s : Text,
        (flatten (combine bs)).filter (·.selectors == s) = (flatten bs).filter (·.selectors == s) ↔
          ((placed bs).filter (·.2.selectors == s)).Pairwise (·.1 ≤ ·.1) := by
  intro bs
  have hsorted : flatten (combine bs) = (byPlace bs.length (placed bs)).map (·.2) :=
    flatten_combine_eq hsettled
  -- a selection of the rules on either side is the same selection of the placed rules
  have hafter : ∀ p : ScopedRule → Bool, (flatten (combine bs)).filter p =
      (byPlace bs.length ((placed bs).filter (p ·.2))).map (·.2) := by
    intro p
    rw [hsorted, List.filter_map, ← filter_byPlace]
    rfl
  have hbefore : ∀ p : ScopedRule → Bool,
      (flatten bs).filter p = ((placed bs).filter (p ·.2)).map (·.2) := by
    intro p
    rw [← map_snd_placed, List.filter_map]
    rfl
  have hbound : ∀ p : ScopedRule → Bool, ∀ x ∈ (placed bs).filter (p ·.2), x.1 < bs.length :=
    fun p x hx => lt_length_of_mem_placed (List.mem_filter.1 hx).1
  refine ⟨hsorted, ?_, ?_⟩
  · intro c
    rw [hafter, hbefore, (byPlace_eq_self_iff (hbound (·.query == c))).2
      (pairwise_placed_of_query bs c)]
  · intro s
    rw [hafter, hbefore, ← byPlace_eq_self_iff (hbound (·.selectors == s))]
    constructor
    · intro hsame
      -- the queries stand in the same order, and the rules under each of them do
      refine @eq_of_classes_eq _ _ _ _ (fun x : Nat × ScopedRule => x.2.query) _ _ ?_ ?_
      · simpa [List.map_map, Function.comp_def] using congrArg (List.map ScopedRule.query) hsame
      · intro c
        have hclass : ∀ x ∈ ((placed bs).filter (·.2.selectors == s)).filter (·.2.query == c),
            x.1 < bs.length :=
          fun x hx => hbound (·.selectors == s) x (List.mem_filter.1 hx).1
        rw [filter_byPlace, byPlace_eq_self_iff hclass, List.filter_comm]
        exact (pairwise_placed_of_query bs c).filter _
    · intro hsame
      rw [hsame]

/-- Between the two blocks that are merged stands a rule with another selector. -/
theorem flatten_combine_apart :
    let css :=
      "@media print\x7b.a\x7bx:1\x7d\x7d.b\x7bx:2\x7d@media print\x7b.a\x7bx:3\x7d\x7d".toList
    let bs := Block.segment css
    (∀ q ∈ bs.filterMap query?, Settled (membersOf q bs)) ∧
      flatten (combine bs) = (byPlace bs.length (placed bs)).map (·.2) ∧
      ((placed bs).filter (·.2.selectors == ".a".toList)).Pairwise (·.1 ≤ ·.1) ∧
      (flatten (combine bs)).filter (·.selectors == ".a".toList) =
        (flatten bs).filter (·.selectors == ".a".toList) := by
  intro css bs
  have hsettled : ∀ q ∈ bs.filterMap query?, Settled (membersOf q bs) := by decide +kernel
  have hsorted : ((placed bs).filter (·.2.selectors == ".a".toList)).Pairwise (·.1 ≤ ·.1) := by
    decide +kernel
  obtain ⟨hplaces, -, hselector⟩ := flatten_combine css hsettled
  exact ⟨hsettled, hplaces, hsorted, (hselector ".a".toList).2 hsorted⟩

/-- A rule of the second media block is moved in front of a rule with the same selector, which wins
from then on. -/
theorem flatten_combine_overtakes :
    let css :=
      "@media print\x7b.a\x7bx:1\x7d\x7d.a\x7bx:2\x7d@media print\x7b.a\x7bx:3\x7d\x7d".toList
    let bs := Block.segment css
    ((flatten bs).filter (·.selectors == ".a".toList)).map (·.body) =
        ["\x7bx:1\x7d".toList, "\x7bx:2\x7d".toList, "\x7bx:3\x7d".toList] ∧
      ((flatten (combine bs)).filter (·.selectors == ".a".toList)).map (·.body) =
        ["\x7bx:1\x7d".toList, "\x7bx:3\x7d".toList, "\x7bx:2\x7d".toList] := by
  intro css bs
  constructor
  all_goals decide +kernel

end Media

end CssTrim
