import CssTrim.Proofs.Lexeme.Reading

/-!
# How lexemes are cut into pieces

`Piece.ofLexemes` goes through the lexemes of a stylesheet from its front.  This
module says the same without a scan.

* `Lexeme.level` counts the braces that a sequence leaves open, and
  `Lexeme.Nested` says that no part of it closes more than it may.  The body of
  a rule is the longest stretch that stays nested: `spanBody_append_cons` and
  `spanBody_eq_none_iff`.
* `Piece.NoHeaderEnd` says that nothing ends a header.
* A piece is `Piece.Whole` when it ends by itself, and `Piece.Unfinished` when
  only the end of the input ends it.
* `Piece.Cut ls ps` says that the pieces `ps` make up `ls`: whole pieces with
  blanks in front, then an unfinished piece or blanks.  `cut_iff` is the bridge:
  there is exactly one way to cut a sequence, and `Piece.ofLexemes` finds it.
-/

namespace CssTrim

namespace Lexeme

/-! ## Open braces -/

/-- What a lexeme adds to the number of open braces. -/
def brace (l : Lexeme) : Int :=
  if l = .plain '{' then 1 else if l = .plain '}' then -1 else 0

/-- The number of braces that a sequence of lexemes opens, less those that it closes. -/
def level : List Lexeme → Int
  | [] => 0
  | l :: ls => brace l + level ls

@[simp] theorem level_nil : level [] = 0 := rfl

@[simp] theorem level_cons (l : Lexeme) (ls : List Lexeme) :
    level (l :: ls) = brace l + level ls := rfl

@[simp] theorem level_append (xs ys : List Lexeme) : level (xs ++ ys) = level xs + level ys := by
  induction xs with
  | nil => rw [List.nil_append, level_nil, Int.zero_add]
  | cons x xs ih => rw [List.cons_append, level_cons, level_cons, ih, Int.add_assoc]

/-- Whether a sequence of lexemes inside `depth` open braces never closes more than these. -/
def Nested (depth : Int) (ls : List Lexeme) : Prop :=
  ∀ front, front <+: ls → 0 ≤ depth + level front

theorem nested_nil_iff {depth : Int} : Nested depth [] ↔ 0 ≤ depth := by
  constructor
  · intro h
    simpa using h [] (List.prefix_refl [])
  · intro h front hfront
    rw [List.prefix_nil.1 hfront, level_nil]
    omega

theorem Nested.depth_nonneg {depth : Int} {ls : List Lexeme} (h : Nested depth ls) :
    0 ≤ depth := by
  simpa using h [] List.nil_prefix

theorem nested_cons_iff {depth : Int} {l : Lexeme} {ls : List Lexeme} :
    Nested depth (l :: ls) ↔ 0 ≤ depth ∧ Nested (depth + brace l) ls := by
  constructor
  · intro h
    refine ⟨h.depth_nonneg, ?_⟩
    intro front hfront
    have hlevel := h (l :: front) (List.cons_prefix_cons.2 ⟨rfl, hfront⟩)
    rw [level_cons] at hlevel
    omega
  · rintro ⟨hdepth, h⟩ front hfront
    rcases List.prefix_cons_iff.1 hfront with rfl | ⟨more, rfl, hmore⟩
    · rw [level_nil]
      omega
    · have hlevel := h more hmore
      rw [level_cons]
      omega

theorem nested_append_iff {depth : Int} {xs ys : List Lexeme} :
    Nested depth (xs ++ ys) ↔ Nested depth xs ∧ Nested (depth + level xs) ys := by
  induction xs generalizing depth with
  | nil =>
    rw [List.nil_append, level_nil, Int.add_zero, nested_nil_iff]
    exact ⟨fun h => ⟨h.depth_nonneg, h⟩, fun h => h.2⟩
  | cons x xs ih =>
    rw [List.cons_append, nested_cons_iff, nested_cons_iff, ih, level_cons, and_assoc,
      Int.add_assoc]

end Lexeme

namespace Piece

open Lexeme (level Nested)

/-! ## The end of a body -/

theorem spanBody_close (ls : List Lexeme) :
    spanBody 0 (.plain '}' :: ls) = some ([], ls) := by
  simp [spanBody]

/-- A lexeme that does not end the body stays in it, and changes the depth by its brace. -/
theorem spanBody_cons {depth next : Nat} {l : Lexeme}
    (hnext : (next : Int) = depth + Lexeme.brace l) (ls : List Lexeme) :
    spanBody depth (l :: ls) = (spanBody next ls).map (·.map (l :: ·) id) := by
  rw [spanBody.eq_def]
  dsimp only
  by_cases hopen : l = .plain '{'
  · rw [Lexeme.brace, if_pos hopen] at hnext
    obtain rfl : next = depth + 1 := by omega
    rw [if_pos hopen]
  by_cases hclose : l = .plain '}'
  · rw [Lexeme.brace, if_neg hopen, if_pos hclose] at hnext
    obtain rfl : depth = next + 1 := by omega
    rw [if_neg hopen, if_pos hclose]
  · rw [Lexeme.brace, if_neg hopen, if_neg hclose] at hnext
    obtain rfl : next = depth := by omega
    rw [if_neg hopen, if_neg hclose]

/-- A lexeme either ends the body or leaves a depth behind it. -/
theorem closes_or_exists_depth (depth : Nat) (l : Lexeme) :
    (l = .plain '}' ∧ depth = 0) ∨ ∃ next : Nat, (next : Int) = depth + Lexeme.brace l := by
  by_cases hclose : l = .plain '}' ∧ depth = 0
  · exact .inl hclose
  · right
    refine ⟨(depth + Lexeme.brace l).toNat, Int.toNat_of_nonneg ?_⟩
    unfold Lexeme.brace
    split
    · omega
    · split
      · rename_i hl
        have hdepth : depth ≠ 0 := fun h => hclose ⟨hl, h⟩
        omega
      · omega

/-- A body runs to the end exactly when no brace closes it. -/
theorem spanBody_eq_none_iff {depth : Nat} {ls : List Lexeme} :
    spanBody depth ls = none ↔ Nested depth ls := by
  induction ls generalizing depth with
  | nil => simp [spanBody, Lexeme.nested_nil_iff]
  | cons l ls ih =>
    rcases closes_or_exists_depth depth l with ⟨rfl, rfl⟩ | ⟨next, hnext⟩
    · rw [spanBody_close, Lexeme.nested_cons_iff]
      constructor
      · intro h
        cases h
      · intro h
        exact absurd h.2.depth_nonneg (by decide)
    · rw [spanBody_cons hnext, Option.map_eq_none_iff, ih, hnext, Lexeme.nested_cons_iff]
      simp

/-- A body ends at the first brace that would close more than the body opens. -/
theorem spanBody_append_cons {depth : Nat} {inner : List Lexeme} (hinner : Nested depth inner)
    (hlevel : depth + level inner = 0) (rest : List Lexeme) :
    spanBody depth (inner ++ .plain '}' :: rest) = some (inner, rest) := by
  induction inner generalizing depth with
  | nil =>
    rw [Lexeme.level_nil] at hlevel
    obtain rfl : depth = 0 := by omega
    exact spanBody_close rest
  | cons l inner ih =>
    obtain ⟨_, htail⟩ := Lexeme.nested_cons_iff.1 hinner
    obtain ⟨next, hnext⟩ := Int.eq_ofNat_of_zero_le htail.depth_nonneg
    rw [hnext] at htail
    rw [Lexeme.level_cons] at hlevel
    rw [List.cons_append, spanBody_cons hnext.symm, ih htail (by omega)]
    rfl

/-- What stands before the brace that closes a body is nested, and closes all that it opens. -/
theorem nested_of_spanBody_eq_some {depth : Nat} {ls inner rest : List Lexeme}
    (h : spanBody depth ls = some (inner, rest)) :
    Nested depth inner ∧ depth + level inner = 0 := by
  induction ls generalizing depth inner with
  | nil => simp [spanBody] at h
  | cons l ls ih =>
    rcases closes_or_exists_depth depth l with ⟨rfl, rfl⟩ | ⟨next, hnext⟩
    · rw [spanBody_close] at h
      obtain ⟨rfl, -⟩ := Prod.mk.inj (Option.some.inj h)
      exact ⟨Lexeme.nested_nil_iff.2 (Int.le_refl 0), rfl⟩
    · rw [spanBody_cons hnext] at h
      obtain ⟨p, hp, he⟩ := Option.map_eq_some_iff.1 h
      have hinner : l :: p.1 = inner := congrArg Prod.fst he
      have hrest : p.2 = rest := congrArg Prod.snd he
      have hspan : spanBody next ls = some (p.1, rest) := by rw [hp, ← hrest]
      obtain ⟨hnested, hlevel⟩ := ih hspan
      rw [hnext] at hnested hlevel
      rw [← hinner, Lexeme.nested_cons_iff, Lexeme.level_cons]
      exact ⟨⟨Int.natCast_nonneg depth, hnested⟩, by omega⟩

/-! ## The end of a header -/

/-- The number of brackets that are open behind a part of a header. -/
def brackets (depth : Nat) (ls : List Lexeme) : Nat := ls.foldl bracketsAfter depth

/-- Whether no lexeme of a sequence ends a header. -/
def NoHeaderEnd (depth : Nat) (ls : List Lexeme) : Prop := (spanHeader depth ls).2 = []

theorem endsHeader_iff {depth : Nat} {l : Lexeme} :
    endsHeader depth l ↔
      l = .plain '{' ∨ l = .plain '}' ∨ (l = .plain ';' ∧ depth = 0) := by
  simp only [endsHeader, Bool.or_eq_true, Bool.and_eq_true, beq_iff_eq, or_assoc]

theorem noHeaderEnd_nil (depth : Nat) : NoHeaderEnd depth [] := rfl

theorem noHeaderEnd_cons_iff {depth : Nat} {l : Lexeme} {ls : List Lexeme} :
    NoHeaderEnd depth (l :: ls) ↔
      endsHeader depth l = false ∧ NoHeaderEnd (bracketsAfter depth l) ls := by
  rw [NoHeaderEnd, spanHeader]
  cases hend : endsHeader depth l with
  | true => simp
  | false => simp [NoHeaderEnd]

theorem noHeaderEnd_append_iff {depth : Nat} {xs ys : List Lexeme} :
    NoHeaderEnd depth (xs ++ ys) ↔
      NoHeaderEnd depth xs ∧ NoHeaderEnd (brackets depth xs) ys := by
  induction xs generalizing depth with
  | nil => simp [noHeaderEnd_nil, brackets]
  | cons x xs ih =>
    rw [List.cons_append, noHeaderEnd_cons_iff, noHeaderEnd_cons_iff, ih, and_assoc]
    rfl

/-- A header is cut before the first lexeme that ends it. -/
theorem spanHeader_append_cons {depth : Nat} {front : List Lexeme} {stop : Lexeme}
    (hfront : NoHeaderEnd depth front) (hstop : endsHeader (brackets depth front) stop)
    (rest : List Lexeme) : spanHeader depth (front ++ stop :: rest) = (front, stop :: rest) := by
  induction front generalizing depth with
  | nil =>
    rw [brackets, List.foldl_nil] at hstop
    rw [List.nil_append, spanHeader, if_pos hstop]
  | cons l front ih =>
    obtain ⟨hl, htail⟩ := noHeaderEnd_cons_iff.1 hfront
    rw [List.cons_append, spanHeader, hl, ih htail hstop]
    rfl

/-- A header that nothing ends runs to the end. -/
theorem spanHeader_of_noHeaderEnd {depth : Nat} {ls : List Lexeme} (h : NoHeaderEnd depth ls) :
    spanHeader depth ls = (ls, []) := by
  have happ := spanHeader_append depth ls
  rw [h, List.append_nil] at happ
  exact Prod.ext happ h

theorem noHeaderEnd_spanHeader (depth : Nat) (ls : List Lexeme) :
    NoHeaderEnd depth (spanHeader depth ls).1 := by
  induction ls generalizing depth with
  | nil => rfl
  | cons l ls ih =>
    rw [spanHeader]
    cases hend : endsHeader depth l with
    | true => rfl
    | false => exact noHeaderEnd_cons_iff.2 ⟨hend, ih (bracketsAfter depth l)⟩

/-- What a header is cut before ends it. -/
theorem endsHeader_of_spanHeader_eq {depth : Nat} {ls front rest : List Lexeme} {stop : Lexeme}
    (h : spanHeader depth ls = (front, stop :: rest)) :
    endsHeader (brackets depth front) stop := by
  induction ls generalizing depth front with
  | nil => simp [spanHeader] at h
  | cons l ls ih =>
    rw [spanHeader] at h
    cases hend : endsHeader depth l with
    | true =>
      rw [if_pos hend] at h
      obtain ⟨rfl, hstop⟩ := Prod.mk.inj h
      rw [← (List.cons.inj hstop).1]
      exact hend
    | false =>
      rw [hend] at h
      have hfront : l :: (spanHeader (bracketsAfter depth l) ls).1 = front := congrArg Prod.fst h
      have hrest : (spanHeader (bracketsAfter depth l) ls).2 = stop :: rest := congrArg Prod.snd h
      have hspan : spanHeader (bracketsAfter depth l) ls =
          ((spanHeader (bracketsAfter depth l) ls).1, stop :: rest) := Prod.ext rfl hrest
      have hstop := ih hspan
      rw [← hfront]
      exact hstop

/-! ## Pieces -/

/-- The piece with lexemes in front of it. -/
def behind (lead : List Lexeme) : Piece → Piece
  | fragment source => fragment (lead ++ source)
  | rule header inner closed => rule (lead ++ header) inner closed

@[simp] theorem lexemes_behind (lead : List Lexeme) (p : Piece) :
    (p.behind lead).lexemes = lead ++ p.lexemes := by
  cases p with
  | fragment => rfl
  | rule header inner closed => simp [behind, lexemes]

theorem behind_append (xs ys : List Lexeme) (p : Piece) :
    p.behind (xs ++ ys) = (p.behind ys).behind xs := by
  cases p <;> simp [behind]

/-- Whether a sequence starts with something that is neither a blank nor a comment. -/
def Opens (ls : List Lexeme) : Prop :=
  ∃ first rest, ls = first :: rest ∧ first.isBlank = false ∧ first.isComment = false

/-- How a sequence starts does not depend on what follows its first lexemes. -/
theorem opens_append_cons_iff {xs ys : List Lexeme} {y : Lexeme} :
    Opens (xs ++ y :: ys) ↔ Opens (xs ++ [y]) := by
  cases xs with
  | nil =>
    constructor
    · rintro ⟨first, rest, heq, hfirst⟩
      exact ⟨y, [], rfl, (List.cons.inj heq).1 ▸ hfirst⟩
    · rintro ⟨first, rest, heq, hfirst⟩
      exact ⟨y, ys, rfl, (List.cons.inj heq).1 ▸ hfirst⟩
  | cons x xs =>
    constructor
    · rintro ⟨first, rest, heq, hfirst⟩
      exact ⟨x, xs ++ [y], rfl, (List.cons.inj heq).1 ▸ hfirst⟩
    · rintro ⟨first, rest, heq, hfirst⟩
      exact ⟨x, xs ++ y :: ys, rfl, (List.cons.inj heq).1 ▸ hfirst⟩

/-- The pieces without blanks in front that end by themselves. -/
inductive Whole : Piece → Prop where
  | comment (body : Text) : Whole (fragment [.comment body])
  | statement {front : List Lexeme} {stop : Lexeme} (hopens : Opens (front ++ [stop]))
      (hfront : NoHeaderEnd 0 front) (hstop : endsHeader (brackets 0 front) stop)
      (hne : stop ≠ .plain '{') : Whole (fragment (front ++ [stop]))
  | rule {header inner : List Lexeme} (hopens : Opens (header ++ [.plain '{']))
      (hheader : NoHeaderEnd 0 header) (hinner : Nested 0 inner) (hlevel : level inner = 0) :
      Whole (rule header inner true)

/-- The pieces without blanks in front that only the end of the input ends. -/
inductive Unfinished : Piece → Prop where
  | statement {front : List Lexeme} (hopens : Opens front) (hfront : NoHeaderEnd 0 front) :
      Unfinished (fragment front)
  | rule {header inner : List Lexeme} (hopens : Opens (header ++ [.plain '{']))
      (hheader : NoHeaderEnd 0 header) (hinner : Nested 0 inner) :
      Unfinished (rule header inner false)

/-- How a sequence of lexemes is made up of pieces. -/
inductive Cut : List Lexeme → List Piece → Prop where
  | blanks {ls : List Lexeme} (h : ls.all Lexeme.isBlank) : Cut ls []
  | whole {lead rest : List Lexeme} {p : Piece} {ps : List Piece}
      (hlead : lead.all Lexeme.isBlank) (hp : Whole p) (hrest : Cut rest ps) :
      Cut (lead ++ (p.lexemes ++ rest)) (p.behind lead :: ps)
  | unfinished {lead : List Lexeme} {p : Piece} (hlead : lead.all Lexeme.isBlank)
      (hp : Unfinished p) : Cut (lead ++ p.lexemes) [p.behind lead]

/-! ## The scan finds the cut -/

theorem endsHeader_open (depth : Nat) : endsHeader depth (.plain '{') :=
  endsHeader_iff.2 (.inl rfl)

/-- Blanks in front of something else, as the scan takes them off. -/
theorem takeWhile_dropWhile_lead {lead : List Lexeme} (hlead : lead.all Lexeme.isBlank)
    {first : Lexeme} (hfirst : first.isBlank = false) (ls : List Lexeme) :
    (lead ++ first :: ls).takeWhile Lexeme.isBlank = lead ∧
      (lead ++ first :: ls).dropWhile Lexeme.isBlank = first :: ls := by
  have hall : ∀ l ∈ lead, Lexeme.isBlank l = true := List.all_eq_true.1 hlead
  rw [List.takeWhile_append_of_pos hall, List.dropWhile_append_of_pos hall,
    List.takeWhile_cons, List.dropWhile_cons, hfirst]
  simp

theorem ofLexemes_of_blanks {ls : List Lexeme} (h : ls.all Lexeme.isBlank) :
    ofLexemes ls = [] := by
  have hdrop : ls.dropWhile Lexeme.isBlank = [] :=
    List.dropWhile_eq_nil_iff.2 (List.all_eq_true.1 h)
  rw [ofLexemes.eq_def]
  split
  · rfl
  all_goals
    rename_i heq
    rw [hdrop] at heq
    cases heq

theorem ofLexemes_comment {lead : List Lexeme} (hlead : lead.all Lexeme.isBlank) (body : Text)
    (rest : List Lexeme) :
    ofLexemes (lead ++ .comment body :: rest) =
      fragment (lead ++ [.comment body]) :: ofLexemes rest := by
  have hcomment : (Lexeme.comment body).isBlank = false := rfl
  obtain ⟨htake, hdrop⟩ := takeWhile_dropWhile_lead hlead hcomment rest
  rw [ofLexemes.eq_def]
  dsimp only
  rw [htake]
  split
  · rename_i heq
    rw [hdrop] at heq
    cases heq
  · rename_i heq
    rw [hdrop] at heq
    cases heq
    rfl
  · rename_i hne heq
    rw [hdrop] at heq
    cases heq
    exact absurd rfl (hne body)

/-- What the scan does behind blanks that no comment follows. -/
theorem ofLexemes_of_opens {lead core : List Lexeme} (hlead : lead.all Lexeme.isBlank)
    (hopens : Opens core) :
    ofLexemes (lead ++ core) =
      match spanHeader 0 core with
      | (front, []) => [fragment (lead ++ front)]
      | (front, stop :: rest) =>
        if stop = .plain '{' then
          match spanBody 0 rest with
          | none => [rule (lead ++ front) rest false]
          | some (inner, rest) => rule (lead ++ front) inner true :: ofLexemes rest
        else fragment (lead ++ front ++ [stop]) :: ofLexemes rest := by
  obtain ⟨first, more, rfl, hblank, hcomment⟩ := hopens
  obtain ⟨htake, hdrop⟩ := takeWhile_dropWhile_lead hlead hblank more
  rw [ofLexemes.eq_def]
  dsimp only
  rw [htake]
  split
  · rename_i heq
    rw [hdrop] at heq
    cases heq
  · rename_i heq
    rw [hdrop] at heq
    cases heq
    cases hcomment
  · rename_i heq
    rw [hdrop] at heq
    cases heq
    split
    · rename_i hspan
      rw [hspan]
    · rename_i front stop rest hspan
      rw [hspan]
      dsimp only
      by_cases hstop : stop = .plain '{'
      · rw [if_pos hstop, if_pos hstop]
        split
        · rename_i hbody
          rw [hbody]
        · rename_i hbody
          rw [hbody]
      · rw [if_neg hstop, if_neg hstop]

/-- A whole piece is cut off whatever follows it. -/
theorem Whole.ofLexemes_append {p : Piece} (hp : Whole p) {lead : List Lexeme}
    (hlead : lead.all Lexeme.isBlank) (rest : List Lexeme) :
    ofLexemes (lead ++ (p.lexemes ++ rest)) = p.behind lead :: ofLexemes rest := by
  cases hp with
  | comment body => exact ofLexemes_comment hlead body rest
  | @statement front stop hopens hfront hstop hne =>
    have hcore : Opens (front ++ stop :: rest) := opens_append_cons_iff.2 hopens
    have hassoc : (Piece.fragment (front ++ [stop])).lexemes ++ rest = front ++ stop :: rest := by
      simp [lexemes]
    rw [hassoc, ofLexemes_of_opens hlead hcore, spanHeader_append_cons hfront hstop]
    dsimp only
    rw [if_neg hne, behind, List.append_assoc]
  | @rule header inner hopens hheader hinner hlevel =>
    have hcore : Opens (header ++ .plain '{' :: (inner ++ .plain '}' :: rest)) :=
      opens_append_cons_iff.2 hopens
    have hassoc : (Piece.rule header inner true).lexemes ++ rest =
        header ++ .plain '{' :: (inner ++ .plain '}' :: rest) := by
      simp [lexemes]
    have hzero : ((0 : Nat) : Int) + level inner = 0 := by omega
    rw [hassoc, ofLexemes_of_opens hlead hcore,
      spanHeader_append_cons hheader (endsHeader_open _)]
    dsimp only
    rw [if_pos rfl, spanBody_append_cons hinner hzero]
    rfl

/-- An unfinished piece is the last one. -/
theorem Unfinished.ofLexemes_eq {p : Piece} (hp : Unfinished p) {lead : List Lexeme}
    (hlead : lead.all Lexeme.isBlank) : ofLexemes (lead ++ p.lexemes) = [p.behind lead] := by
  cases hp with
  | statement hopens hfront =>
    rw [lexemes, ofLexemes_of_opens hlead hopens, spanHeader_of_noHeaderEnd hfront]
    rfl
  | @rule header inner hopens hheader hinner =>
    have hcore : Opens (header ++ .plain '{' :: inner) := opens_append_cons_iff.2 hopens
    have hassoc : (Piece.rule header inner false).lexemes = header ++ .plain '{' :: inner := by
      simp [lexemes]
    rw [hassoc, ofLexemes_of_opens hlead hcore,
      spanHeader_append_cons hheader (endsHeader_open _)]
    dsimp only
    rw [if_pos rfl, spanBody_eq_none_iff.2 hinner]
    rfl

/-- The scan returns the pieces of a cut. -/
theorem Cut.ofLexemes_eq {ls : List Lexeme} {ps : List Piece} (h : Cut ls ps) :
    ofLexemes ls = ps := by
  induction h with
  | blanks h => exact ofLexemes_of_blanks h
  | whole hlead hp _ ih => rw [hp.ofLexemes_append hlead, ih]
  | unfinished hlead hp => exact hp.ofLexemes_eq hlead

/-- Behind the blanks in front of a sequence stands something else. -/
theorem opens_of_dropWhile_eq_cons {ls rest : List Lexeme} {first : Lexeme}
    (h : ls.dropWhile Lexeme.isBlank = first :: rest)
    (hcomment : ∀ body, first = .comment body → False) : Opens (first :: rest) := by
  refine ⟨first, rest, rfl, ?_, ?_⟩
  · have hhead := List.head?_dropWhile_not Lexeme.isBlank ls
    rw [h] at hhead
    exact hhead
  · cases first with
    | comment body => exact absurd rfl (hcomment body)
    | plain | escape | quoted => rfl

/-- What stands before the end of a header, and the lexeme that ends it. -/
theorem header_of_spanHeader_eq {ls front rest : List Lexeme} {stop : Lexeme} (hopens : Opens ls)
    (h : spanHeader 0 ls = (front, stop :: rest)) :
    ls = front ++ stop :: rest ∧ Opens (front ++ [stop]) ∧ NoHeaderEnd 0 front ∧
      endsHeader (brackets 0 front) stop := by
  have hls := spanHeader_append 0 ls
  have hclear := noHeaderEnd_spanHeader 0 ls
  rw [h] at hls hclear
  have hfront : Opens (front ++ stop :: rest) := by rwa [← hls] at hopens
  exact ⟨hls.symm, opens_append_cons_iff.1 hfront, hclear, endsHeader_of_spanHeader_eq h⟩

/-- The pieces that the scan returns are a cut. -/
theorem cut_ofLexemes (ls : List Lexeme) : Cut ls (ofLexemes ls) := by
  fun_induction ofLexemes ls with
  | case1 ls h => exact .blanks (List.all_eq_true.2 (List.dropWhile_eq_nil_iff.1 h))
  | case2 ls lead body rest h ih =>
    have hls : lead ++ ([.comment body] ++ rest) = ls := by
      rw [List.singleton_append, ← h]
      exact List.takeWhile_append_dropWhile
    have hcut : Cut (lead ++ ([.comment body] ++ rest))
        (fragment (lead ++ [.comment body]) :: ofLexemes rest) :=
      .whole List.all_takeWhile (.comment body) ih
    rwa [hls] at hcut
  | case3 ls lead first rest hne h front hspan =>
    have hopens := opens_of_dropWhile_eq_cons h hne
    have hfront := spanHeader_append 0 (first :: rest)
    have hclear := noHeaderEnd_spanHeader 0 (first :: rest)
    rw [hspan] at hfront hclear
    rw [← hfront, List.append_nil] at hopens
    have hls : lead ++ front = ls := by
      rw [← List.append_nil front, hfront, ← h]
      exact List.takeWhile_append_dropWhile
    have hcut : Cut (lead ++ front) [fragment (lead ++ front)] :=
      .unfinished List.all_takeWhile (.statement hopens hclear)
    rw [hls] at hcut ⊢
    exact hcut
  | case4 ls lead first rest hne h front inner hbody hspan =>
    obtain ⟨heq, hopens, hclear, _⟩ :=
      header_of_spanHeader_eq (opens_of_dropWhile_eq_cons h hne) hspan
    have hinner : Nested 0 inner := spanBody_eq_none_iff.1 hbody
    have hls : lead ++ (front ++ .plain '{' :: inner ++ []) = ls := by
      rw [List.append_nil, ← heq, ← h]
      exact List.takeWhile_append_dropWhile
    have hcut : Cut (lead ++ (front ++ .plain '{' :: inner ++ []))
        [rule (lead ++ front) inner false] :=
      .unfinished List.all_takeWhile (.rule hopens hclear hinner)
    rwa [hls] at hcut
  | case5 ls lead first rest hne h front rest₂ inner rest₃ hbody hspan ih =>
    obtain ⟨heq, hopens, hclear, _⟩ :=
      header_of_spanHeader_eq (opens_of_dropWhile_eq_cons h hne) hspan
    obtain ⟨hinner, hlevel⟩ := nested_of_spanBody_eq_some hbody
    have hls : lead ++ ((front ++ .plain '{' :: inner ++ [.plain '}']) ++ rest₃) = ls := by
      rw [List.append_assoc, List.append_assoc, List.cons_append, List.singleton_append,
        ← spanBody_append hbody, ← heq, ← h]
      exact List.takeWhile_append_dropWhile
    have hcut : Cut (lead ++ ((front ++ .plain '{' :: inner ++ [.plain '}']) ++ rest₃))
        (rule (lead ++ front) inner true :: ofLexemes rest₃) :=
      .whole List.all_takeWhile (.rule hopens hclear hinner (by simpa using hlevel)) ih
    rwa [hls] at hcut
  | case6 ls lead first rest hne h front stop rest₂ hspan hstop ih =>
    obtain ⟨heq, hopens, hclear, hend⟩ :=
      header_of_spanHeader_eq (opens_of_dropWhile_eq_cons h hne) hspan
    have hls : lead ++ ((front ++ [stop]) ++ rest₂) = ls := by
      rw [List.append_assoc, List.singleton_append, ← heq, ← h]
      exact List.takeWhile_append_dropWhile
    have hcut : Cut (lead ++ ((front ++ [stop]) ++ rest₂))
        (fragment (lead ++ (front ++ [stop])) :: ofLexemes rest₂) :=
      .whole List.all_takeWhile (.statement hopens hclear hend hstop) ih
    rw [hls, ← List.append_assoc] at hcut
    exact hcut

/-- **There is exactly one way to cut a sequence, and the scan finds it.** -/
theorem cut_iff {ls : List Lexeme} {ps : List Piece} : Cut ls ps ↔ ofLexemes ls = ps := by
  constructor
  · exact Cut.ofLexemes_eq
  · rintro rfl
    exact cut_ofLexemes ls

end Piece

end CssTrim
