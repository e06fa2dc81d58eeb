import CssTrim.Proofs.Media.Regroup
import CssTrim.Proofs.Text.Character
import CssTrim.Proofs.Text.Words
import Mathlib.Logic.Relation

/-!
# Queries that differ in layout

Media queries are compared in a form in which neither case nor layout counts.
`normalize` brings a query into this form in several passes.  There are four
groups.

* The passes over the blanks in one: `compact` goes through a query once, and
  remembers the last character that it has written and whether blanks have
  followed it.
* Places where blanks do not count.  A blank is written only between two
  characters of which the first does not open and the second does not close
  anything.
* Edits.  `Edit` changes the case of a letter, writes other blanks for some, or
  puts in or takes out blanks where they are layout.  `compact_of_edit` says that
  one edit changes nothing, and `normalize_of_edits` is the induction over many.
* Groups.  Blocks whose queries differ by edits are in the same group of every
  list.
-/

namespace CssTrim

namespace Media

open Text (isBlank isBlankText squeeze squeezeBehind)

/-! ## One pass over the blanks -/

/-- A query without layout.  `before` is the last character that has been written, and `gap` whether
blanks have followed it. -/
def compact (before : Option Char) (gap : Bool) : Text → Text
  | [] => []
  | c :: t =>
    if isBlank c then compact before true t
    else if gap && before.any (!opens ·) && !closes c then ' ' :: c :: compact (some c) false t
    else c :: compact (some c) false t

theorem compact_cons_of_isBlank {c : Char} (hc : isBlank c = true) (before : Option Char)
    (gap : Bool) (t : Text) : compact before gap (c :: t) = compact before true t := by
  rw [compact, if_pos hc]

theorem compact_cons {c : Char} (hc : isBlank c = false) (before : Option Char) (gap : Bool)
    (t : Text) :
    compact before gap (c :: t) =
      (if gap && before.any (!opens ·) && !closes c then [' '] else []) ++
        c :: compact (some c) false t := by
  rw [compact, hc, if_neg Bool.false_ne_true]
  split <;> rfl

theorem tighten_cons {c : Char} (hc : isBlank c = false) (before : Option Char) (t : Text) :
    tighten before (c :: t) = c :: tighten (some c) t := by
  rw [tighten, hc, Bool.false_and, if_neg Bool.false_ne_true]

/-- Behind a character that is no blank, squeezing and tightening a text is one pass. -/
theorem tighten_squeezeBehind (before : Char) (gap : Bool) (t : Text) :
    tighten (some before) (squeezeBehind (if gap then [' '] else []) t) =
      compact (some before) gap t := by
  induction t generalizing before gap with
  | nil => rfl
  | cons c t ih =>
    cases hc : isBlank c with
    | true =>
      rw [Text.squeezeBehind_cons_of_isBlank hc, compact_cons_of_isBlank hc]
      exact ih before true
    | false =>
      have hrest : tighten (some c) (squeezeBehind [] t) = compact (some c) false t := ih c false
      rw [Text.squeezeBehind_cons hc, compact_cons hc]
      cases gap with
      | false => 
        rw [if_neg Bool.false_ne_true, List.nil_append, tighten_cons hc, hrest]
        rfl
      | true =>
        have hspace : isBlank ' ' = true := by decide
        rw [if_pos rfl, List.singleton_append, tighten, hspace]
        cases hopens : opens before <;> cases hcloses : closes c <;>
          simp [hopens, hcloses, tighten_cons hc, hrest]

/-- **Squeezing and tightening a text is one pass.** -/
theorem tighten_squeeze (gap : Bool) (t : Text) :
    tighten none (squeeze t) = compact none gap t := by
  induction t generalizing gap with
  | nil => rfl
  | cons c t ih =>
    cases hc : isBlank c with
    | true => rw [Text.squeeze_cons_of_isBlank hc, compact_cons_of_isBlank hc, ih true]
    | false =>
      have hrest : tighten (some c) (squeezeBehind [] t) = compact (some c) false t :=
        tighten_squeezeBehind c false t
      rw [Text.squeeze_cons_eq hc, tighten_cons hc, hrest, compact_cons hc]
      simp

/-! ## Places where blanks do not count -/

/-- At the front and behind a character that opens, blanks leave nothing. -/
theorem compact_gap {before : Option Char} (h : before.any (!opens ·) = false) (gap gap' : Bool)
    (t : Text) : compact before gap t = compact before gap' t := by
  cases t with
  | nil => rfl
  | cons c t =>
    cases hc : isBlank c with
    | true => rw [compact_cons_of_isBlank hc, compact_cons_of_isBlank hc]
    | false => rw [compact_cons hc, compact_cons hc, h, Bool.and_false, Bool.and_false]

/-- In front of a character that closes, blanks leave nothing either. -/
theorem compact_cons_of_closes {c : Char} (hc : isBlank c = false) (hcloses : closes c = true)
    (before : Option Char) (gap gap' : Bool) (t : Text) :
    compact before gap (c :: t) = compact before gap' (c :: t) := by
  rw [compact_cons hc, compact_cons hc, hcloses]
  simp

/-- All that counts about blanks is that there are some. -/
theorem compact_append_of_isBlankText {w : Text} (hw : isBlankText w) (hne : w ≠ [])
    (before : Option Char) (gap : Bool) (t : Text) :
    compact before gap (w ++ t) = compact before true t := by
  induction w generalizing gap with
  | nil => exact absurd rfl hne
  | cons c w ih =>
    rw [Text.isBlankText_cons, Bool.and_eq_true] at hw
    rw [List.cons_append, compact_cons_of_isBlank hw.1]
    cases w with
    | nil => rfl
    | cons d w => exact ih hw.2 (List.cons_ne_nil d w) true

/-- Texts that are the same wherever they stand are the same behind a text. -/
theorem compact_append_congr {s t : Text}
    (h : ∀ before gap, compact before gap s = compact before gap t) (front : Text)
    (before : Option Char) (gap : Bool) :
    compact before gap (front ++ s) = compact before gap (front ++ t) := by
  induction front generalizing before gap with
  | nil => exact h before gap
  | cons c front ih =>
    rw [List.cons_append, List.cons_append]
    cases hc : isBlank c with
    | true => rw [compact_cons_of_isBlank hc, compact_cons_of_isBlank hc, ih]
    | false => rw [compact_cons hc, compact_cons hc, ih]

/-- The places where blanks are layout: the ends of a query, both sides of a colon, and the inner
sides of parentheses.  `front` is what stands before the place and `back` what stands behind it. -/
inductive Loose : (front back : Text) → Prop where
  | start (back : Text) : Loose [] back
  | stop (front : Text) : Loose front []
  | behind (front : Text) {c : Char} (hc : c = ':' ∨ c = '(') (back : Text) :
      Loose (front ++ [c]) back
  | before (front : Text) {c : Char} (hc : c = ':' ∨ c = ')') (back : Text) :
      Loose front (c :: back)

/-- **Blanks at such a place do not count.** -/
theorem compact_of_loose {front back : Text} (h : Loose front back) {w : Text}
    (hw : isBlankText w) :
    compact none false (front ++ (w ++ back)) = compact none false (front ++ back) := by
  by_cases hne : w = []
  · rw [hne, List.nil_append]
  have hblanks : ∀ before gap, compact before gap (w ++ back) = compact before true back :=
    fun before gap => compact_append_of_isBlankText hw hne before gap back
  cases h with
  | start =>
    rw [List.nil_append, hblanks]
    exact compact_gap rfl true false back
  | stop =>
    refine compact_append_congr (fun before gap => ?_) front none false
    rw [hblanks]
    rfl
  | @behind front c hc =>
    rw [List.append_assoc, List.append_assoc]
    refine compact_append_congr (fun before gap => ?_) front none false
    have hsolid : isBlank c = false := by rcases hc with rfl | rfl <;> decide
    have hopens : (some c).any (!opens ·) = false := by rcases hc with rfl | rfl <;> decide
    rw [List.singleton_append, List.singleton_append, compact_cons hsolid, compact_cons hsolid,
      hblanks, compact_gap hopens true false]
  | @before front c hc back =>
    refine compact_append_congr (fun before gap => ?_) front none false
    have hsolid : isBlank c = false := by rcases hc with rfl | rfl <;> decide
    have hcloses : closes c = true := by rcases hc with rfl | rfl <;> decide
    rw [hblanks]
    exact compact_cons_of_closes hsolid hcloses before true gap back

/-! ## Edits -/

/-- The changes to a query that are about its layout and about the case of its letters. -/
inductive Edit : Text → Text → Prop where
  /-- A letter for the same letter in the other case. -/
  | letter (front : Text) {c d : Char} (hc : Text.isAsciiLetter c) (hd : Text.isAsciiLetter d)
      (h : c.toLower = d.toLower) (back : Text) : Edit (front ++ c :: back) (front ++ d :: back)
  /-- Some blanks for others. -/
  | blanks (front : Text) {v w : Text} (hv : isBlankText v) (hv' : v ≠ []) (hw : isBlankText w)
      (hw' : w ≠ []) (back : Text) : Edit (front ++ (v ++ back)) (front ++ (w ++ back))
  | insert {front back w : Text} (hw : isBlankText w) (h : Loose front back) :
      Edit (front ++ back) (front ++ (w ++ back))
  | delete {front back w : Text} (hw : isBlankText w) (h : Loose front back) :
      Edit (front ++ (w ++ back)) (front ++ back)

/-- Whether a text holds ASCII characters and blanks only. -/
def IsPlain (t : Text) : Prop := ∀ c ∈ t, c.toNat < 128 ∨ isBlank c = true

theorem isPlain_append {s t : Text} : IsPlain (s ++ t) ↔ IsPlain s ∧ IsPlain t :=
  List.forall_mem_append

theorem isPlain_cons {c : Char} {t : Text} :
    IsPlain (c :: t) ↔ (c.toNat < 128 ∨ isBlank c = true) ∧ IsPlain t :=
  List.forall_mem_cons

theorem isPlain_of_isBlankText {w : Text} (hw : isBlankText w) : IsPlain w :=
  fun c hc => .inr (Text.forall_isBlank_of_isBlankText hw c hc)

/-- An edit brings nothing else than ASCII characters and blanks into a query. -/
theorem IsPlain.of_edit {q r : Text} (hq : IsPlain q) (h : Edit q r) : IsPlain r := by
  cases h with
  | letter front _ hd _ back =>
    rw [isPlain_append, isPlain_cons] at hq ⊢
    exact ⟨hq.1, .inl (Text.toNat_lt_of_isAsciiLetter hd), hq.2.2⟩
  | blanks front _ _ hw =>
    rw [isPlain_append, isPlain_append] at hq ⊢
    exact ⟨hq.1, isPlain_of_isBlankText hw, hq.2.2⟩
  | insert hw =>
    rw [isPlain_append] at hq
    rw [isPlain_append, isPlain_append]
    exact ⟨hq.1, isPlain_of_isBlankText hw, hq.2⟩
  | delete =>
    rw [isPlain_append, isPlain_append] at hq
    rw [isPlain_append]
    exact ⟨hq.1, hq.2.2⟩

theorem lower_of_isPlain {t : Text} (h : IsPlain t) : Text.lower t = t.map Char.toLower :=
  Text.lower_eq_map fun c hc =>
    (h c hc).elim (Text.lowersAlone_of_ascii c) (Text.lowersAlone_of_isBlank c)

/-- Blanks have no case. -/
theorem map_toLower_of_isBlankText {w : Text} (hw : isBlankText w) : w.map Char.toLower = w := by
  have hone : ∀ c : Char, isBlank c = true → c.toLower = c := Text.forall_blank (by decide +kernel)
  have hall : w.map Char.toLower = w.map id :=
    List.map_congr_left fun c hc => hone c (Text.forall_isBlank_of_isBlankText hw c hc)
  rw [hall, List.map_id]

/-- Lower case moves no place where blanks are layout. -/
theorem Loose.map_toLower {front back : Text} (h : Loose front back) :
    Loose (front.map Char.toLower) (back.map Char.toLower) := by
  cases h with
  | start => exact .start _
  | stop => exact .stop _
  | @behind front c hc =>
    have hsame : c.toLower = c := by rcases hc with rfl | rfl <;> rfl
    rw [List.map_append, List.map_singleton, hsame]
    exact .behind _ hc _
  | @before front c hc =>
    have hsame : c.toLower = c := by rcases hc with rfl | rfl <;> rfl
    rw [List.map_cons, hsame]
    exact .before _ hc _

/-- **One edit changes nothing** about a query without case and layout. -/
theorem compact_of_edit {q r : Text} (h : Edit q r) :
    compact none false (r.map Char.toLower) = compact none false (q.map Char.toLower) := by
  cases h with
  | letter front _ _ hsame back =>
    rw [List.map_append, List.map_cons, List.map_append, List.map_cons, hsame]
  | blanks front hv hv' hw hw' back =>
    simp only [List.map_append, map_toLower_of_isBlankText hv, map_toLower_of_isBlankText hw]
    refine compact_append_congr (fun before gap => ?_) _ none false
    rw [compact_append_of_isBlankText hv hv', compact_append_of_isBlankText hw hw']
  | insert hw hloose =>
    simp only [List.map_append, map_toLower_of_isBlankText hw]
    exact compact_of_loose hloose.map_toLower hw
  | delete hw hloose =>
    simp only [List.map_append, map_toLower_of_isBlankText hw]
    exact (compact_of_loose hloose.map_toLower hw).symm

/-- Any number of edits, of which the induction is over. -/
theorem isPlain_and_compact_of_edits {q r : Text} (hq : IsPlain q)
    (h : Relation.ReflTransGen Edit q r) :
    IsPlain r ∧
      compact none false (r.map Char.toLower) = compact none false (q.map Char.toLower) := by
  induction h with
  | refl => exact ⟨hq, rfl⟩
  | tail _ hedit ih => exact ⟨ih.1.of_edit hedit, (compact_of_edit hedit).trans ih.2⟩

/-- Queries are compared without case and layout. -/
theorem normalize_eq_of_compact_eq {q r : Text} (hq : IsPlain q) (hr : IsPlain r)
    (h : compact none false (r.map Char.toLower) = compact none false (q.map Char.toLower)) :
    normalize r = normalize q := by
  unfold normalize
  rw [tighten_squeeze false, tighten_squeeze false, lower_of_isPlain hq, lower_of_isPlain hr, h]

/-! ## Groups -/

/-- Blocks with the same query are in the same group. -/
theorem exists_group_of_query?_eq {bs : List Block} {b c : Block} {q : Text} (hb : b ∈ bs)
    (hc : c ∈ bs) (hbq : query? b = some q) (hcq : query? c = some q) :
    (∃ g ∈ groups bs, b ∈ g.members) ∧
      ∀ g ∈ groups bs, b ∈ g.members ↔ c ∈ g.members := by
  constructor
  · cases hmembers : membersOf q bs with
    | nil =>
      have hmem := mem_membersOf_iff.2 ⟨hb, hbq⟩
      rw [hmembers] at hmem
      exact absurd hmem List.not_mem_nil
    | cons first others =>
      refine ⟨⟨q, first, others⟩, mem_groups_iff.2 hmembers, ?_⟩
      have hmem := mem_membersOf_iff.2 ⟨hb, hbq⟩
      rwa [hmembers] at hmem
  · intro g hg
    rw [← mem_groups_iff.1 hg, mem_membersOf_iff, mem_membersOf_iff, hbq, hcq]
    exact and_congr_left' ⟨fun _ => hc, fun _ => hb⟩

/-- **The query of a block has neither case nor layout.**  Edits of a query in ASCII do not change
its normal form, and blocks whose conditions differ by edits are in the same group of every list of
blocks. -/
theorem normalize_of_edits {q r : Text} (hascii : ∀ c ∈ q, c.toNat < 128)
    (h : Relation.ReflTransGen Edit q r) :
    normalize r = normalize q ∧
      ∀ (bs : List Block) (b c : Block), b ∈ bs → c ∈ bs →
        b.kind = .media → b.malformed = false → b.passthrough = false → b.condition = q →
        c.kind = .media → c.malformed = false → c.passthrough = false → c.condition = r →
          (∃ g ∈ groups bs, b ∈ g.members) ∧
            ∀ g ∈ groups bs, b ∈ g.members ↔ c ∈ g.members := by
  have hplain : IsPlain q := fun c hc => .inl (hascii c hc)
  obtain ⟨hplain', hcompact⟩ := isPlain_and_compact_of_edits hplain h
  have hsame : normalize r = normalize q := normalize_eq_of_compact_eq hplain hplain' hcompact
  refine ⟨hsame, ?_⟩
  intro bs b c hb hc hkind hwell hrule hcond hkind' hwell' hrule' hcond'
  have hbq : query? b = some (normalize q) := by simp [query?, hkind, hwell, hrule, hcond]
  have hcq : query? c = some (normalize q) := by
    simp [query?, hkind', hwell', hrule', hcond', hsame]
  exact exists_group_of_query?_eq hb hc hbq hcq

/-- A letter in the other case, other blanks, and blanks taken out and put in beside a colon and
inside of parentheses, in two blocks that are merged. -/
theorem normalize_of_edits_television :
    let css := "@media Tv\n( w :1px)\x7b.a\x7b\x7d\x7d@media tv\t (w: 1px )\x7b\x7d".toList
    let q := "Tv\n( w :1px)".toList
    let r := "tv\t (w: 1px )".toList
    let b : Block :=
      { body := "\x7b.a\x7b\x7d\x7d".toList, kind := .media, condition := q,
        keyword := "media".toList, source := "@media Tv\n( w :1px)\x7b.a\x7b\x7d\x7d".toList }
    let c : Block :=
      { body := "\x7b\x7d".toList, kind := .media, condition := r, order := 1,
        keyword := "media".toList, source := "@media tv\t (w: 1px )\x7b\x7d".toList }
    (∀ d ∈ q, d.toNat < 128) ∧ Relation.ReflTransGen Edit q r ∧ b ∈ Block.segment css ∧
      c ∈ Block.segment css ∧ b.malformed = false ∧ c.malformed = false ∧
        normalize r = normalize q ∧ normalize q = "tv (w:1px)".toList ∧
          ∃ g ∈ groups (Block.segment css), b ∈ g.members ∧ c ∈ g.members := by
  intro css q r b c
  have hall : q.all (fun d => decide (d.toNat < 128)) = true := by decide
  have hascii : ∀ d ∈ q, d.toNat < 128 :=
    fun d hd => of_decide_eq_true (List.all_eq_true.1 hall d hd)
  have hletter : Edit q "tv\n( w :1px)".toList :=
    @Edit.letter [] 'T' 't' rfl rfl rfl "v\n( w :1px)".toList
  have hblanks : Edit "tv\n( w :1px)".toList "tv\t ( w :1px)".toList :=
    @Edit.blanks "tv".toList ['\n'] ['\t', ' '] rfl (by decide) rfl (by decide) "( w :1px)".toList
  have hopened : Edit "tv\t ( w :1px)".toList "tv\t (w :1px)".toList :=
    @Edit.delete "tv\t (".toList "w :1px)".toList [' '] rfl (.behind "tv\t ".toList (.inr rfl) _)
  have hcolon : Edit "tv\t (w :1px)".toList "tv\t (w:1px)".toList :=
    @Edit.delete "tv\t (w".toList ":1px)".toList [' '] rfl (.before _ (.inl rfl) _)
  have hspaced : Edit "tv\t (w:1px)".toList "tv\t (w: 1px)".toList :=
    @Edit.insert "tv\t (w:".toList "1px)".toList [' '] rfl (.behind "tv\t (w".toList (.inl rfl) _)
  have hclosed : Edit "tv\t (w: 1px)".toList r :=
    @Edit.insert "tv\t (w: 1px".toList ")".toList [' '] rfl (.before _ (.inr rfl) _)
  have hedits : Relation.ReflTransGen Edit q r :=
    .tail (.tail (.tail (.tail (.tail (.single hletter) hblanks) hopened) hcolon) hspaced) hclosed
  have hb : b ∈ Block.segment css := by decide +kernel
  have hc : c ∈ Block.segment css := by decide +kernel
  obtain ⟨hnormal, hgroups⟩ := normalize_of_edits hascii hedits
  obtain ⟨⟨g, hg, hmem⟩, hsame⟩ := hgroups _ b c hb hc rfl rfl rfl rfl rfl rfl rfl rfl
  exact ⟨hascii, hedits, hb, hc, rfl, rfl, hnormal, by decide +kernel, g, hg, hmem,
    (hsame g hg).1 hmem⟩

end Media

end CssTrim
