import CssTrim.Proofs.Block.Cut

/-!
# Live characters

A character of a stylesheet is live when it stands outside strings and comments
and is no part of an escape.  `Text.live` finds the live characters in one
recursion over the text that keeps what it stands in; it does not know of
lexemes.  There are three groups.

* The recursion.  The result has one entry for each character of the text.
* `Text.live_eq_flatMap`: the live characters are the plain lexemes.
* Braces.  In any front part of the live characters, the opening braces less the
  closing ones are the `Lexeme.level` of a front part of the lexemes.
-/

namespace CssTrim

namespace Text

/-! ## Finding live characters -/

/-- What a character of a stylesheet stands in. -/
inductive Region where
  | code
  | quoted (quote : Char)
  | comment

/-- The live characters of a text that starts inside a region, each at its own place. -/
def liveIn : Region → Text → List (Option Char)
  | _, [] => []
  | .code, '\\' :: _ :: rest => none :: none :: liveIn .code rest
  | .code, '/' :: '*' :: rest => none :: none :: liveIn .comment rest
  | .code, c :: rest =>
    if isQuote c then none :: liveIn (.quoted c) rest else some c :: liveIn .code rest
  | .quoted quote, '\\' :: _ :: rest => none :: none :: liveIn (.quoted quote) rest
  | .quoted quote, c :: rest =>
    none :: liveIn (if c = quote ∨ c = '\n' then .code else .quoted quote) rest
  | .comment, '*' :: '/' :: rest => none :: none :: liveIn .code rest
  | .comment, _ :: rest => none :: liveIn .comment rest

/-- The live characters of a text, each at its own place. -/
def live (t : Text) : List (Option Char) := liveIn .code t

theorem length_liveIn (region : Region) (t : Text) : (liveIn region t).length = t.length := by
  fun_induction liveIn region t <;> simp_all

@[simp] theorem length_live (t : Text) : (live t).length = t.length := length_liveIn .code t

/-- Of three opening braces, the first is escaped and the last stands in a comment. -/
example : live "\\\x7b\x7b/*\x7b".toList = [none, none, some '{', none, none, none] := by decide

/-! ## Live characters and lexemes -/

/-- A string has no live characters. -/
theorem liveIn_quoted (quote : Char) (t : Text) :
    liveIn (.quoted quote) t =
      List.replicate (spanQuoted quote t).1.length none ++ live (spanQuoted quote t).2 := by
  fun_induction spanQuoted quote t with
  | case1 => rfl
  | case2 c rest ih =>
    rw [liveIn, ih]
    rfl
  | case3 c rest hescape hend =>
    rw [liveIn, if_pos hend]
    · rfl
    · exact hescape
  | case4 c rest hescape hend ih =>
    rw [liveIn, if_neg hend, ih]
    · rfl
    · exact hescape

/-- A comment has no live characters. -/
theorem liveIn_comment (t : Text) :
    liveIn .comment t =
      List.replicate (spanComment t).1.length none ++ live (spanComment t).2 := by
  fun_induction spanComment t with
  | case1 rest => rfl
  | case2 c rest hclose ih =>
    rw [liveIn, ih]
    · rfl
    · exact hclose
  | case3 => rfl

end Text

namespace Lexeme

/-- The live characters of a lexeme, each at its own place. -/
def live : Lexeme → List (Option Char)
  | plain c => [some c]
  | l => List.replicate l.text.length none

end Lexeme

namespace Text

/-- **The live characters of a text are its plain lexemes.** -/
theorem live_eq_flatMap (t : Text) : live t = (lexemes t).flatMap Lexeme.live := by
  fun_induction lexemes t with
  | case1 => rfl
  | case2 c rest ih =>
    rw [List.flatMap_cons, ← ih]
    rfl
  | case3 rest ih =>
    rw [List.flatMap_cons, ← ih, live, liveIn, liveIn_comment]
    rfl
  | case4 c rest hescape hcomment hquote ih =>
    rw [List.flatMap_cons, ← ih, live, liveIn, if_pos hquote, liveIn_quoted]
    · rfl
    · exact hescape
    · exact hcomment
  | case5 c rest hescape hcomment hquote ih =>
    rw [List.flatMap_cons, ← ih, live, liveIn, if_neg hquote]
    · rfl
    · exact hescape
    · exact hcomment

end Text

namespace Lexeme

theorem IsReading.live_textOf {ls : List Lexeme} (h : IsReading ls) :
    Text.live (textOf ls) = ls.flatMap live := by
  rw [Text.live_eq_flatMap, h]

/-- The live characters of a part of a reading stand at the places of that part. -/
theorem IsReading.length_flatMap_live {ls : List Lexeme} (h : IsReading ls) :
    (ls.flatMap live).length = (textOf ls).length := by
  rw [← h.live_textOf, Text.length_live]

/-- A character is live exactly when it is a lexeme of its own. -/
theorem some_mem_flatMap_live {c : Char} {ls : List Lexeme} :
    some c ∈ ls.flatMap live ↔ .plain c ∈ ls := by
  have hlexeme : ∀ l, some c ∈ live l ↔ l = .plain c := by
    intro l
    cases l with
    | plain d => simp [live, eq_comm]
    | escape | quoted | comment => simp [live]
  simp only [List.mem_flatMap, hlexeme, exists_eq_right]

/-- A live character at the end is the last lexeme. -/
theorem getLast?_flatMap_live {ls : List Lexeme} {c : Char} :
    (ls.flatMap live).getLast? = some (some c) ↔ ls.getLast? = some (.plain c) := by
  rcases List.eq_nil_or_concat ls with rfl | ⟨ls, l, rfl⟩
  · simp
  · rw [List.concat_eq_append, List.flatMap_append, List.getLast?_concat, Option.some.injEq]
    cases l with
    | plain d => simp [live]
    | escape | quoted | comment =>
      simp [live, text, List.getLast?_append, List.getLast?_replicate]

/-! ## Braces -/

/-- The number of live opening braces. -/
def opened (m : List (Option Char)) : Nat := m.count (some '{')

/-- The number of live closing braces. -/
def closed (m : List (Option Char)) : Nat := m.count (some '}')

@[simp] theorem opened_append (m n : List (Option Char)) :
    opened (m ++ n) = opened m + opened n := List.count_append

@[simp] theorem closed_append (m n : List (Option Char)) :
    closed (m ++ n) = closed m + closed n := List.count_append

/-- A lexeme opens and closes what its brace says. -/
theorem opened_live (l : Lexeme) : (opened l.live : Int) = closed l.live + brace l := by
  cases l with
  | plain c =>
    by_cases hopen : c = '{'
    · rw [hopen]
      rfl
    by_cases hclose : c = '}'
    · rw [hclose]
      rfl
    · simp [opened, closed, live, brace, hopen, hclose]
  | escape | quoted | comment =>
    simp [opened, closed, live, brace, List.count_replicate]

/-- The braces of a sequence open its level. -/
theorem opened_flatMap_live (ls : List Lexeme) :
    (opened (ls.flatMap live) : Int) = closed (ls.flatMap live) + level ls := by
  induction ls with
  | nil => rfl
  | cons l ls ih =>
    have hl := opened_live l
    rw [List.flatMap_cons, opened_append, closed_append, level_cons]
    omega

/-- A front part of a lexeme is empty, or all of it, or has no live characters. -/
theorem brace_front {p : List (Option Char)} {l : Lexeme} (h : p <+: l.live) :
    ∃ front, front <+: [l] ∧ (opened p : Int) = closed p + level front := by
  cases l with
  | plain c =>
    rcases List.prefix_cons_iff.1 h with rfl | ⟨q, rfl, hq⟩
    · exact ⟨[], List.nil_prefix, rfl⟩
    · rw [List.prefix_nil.1 hq]
      refine ⟨[.plain c], List.prefix_refl _, ?_⟩
      exact opened_flatMap_live [.plain c]
  | escape | quoted | comment =>
    have hnone : ∀ c : Char, some c ∉ p := by
      intro c hc
      have hmem := h.subset hc
      simp [live] at hmem
    refine ⟨[], List.nil_prefix, ?_⟩
    rw [opened, closed, List.count_eq_zero.2 (hnone _), List.count_eq_zero.2 (hnone _)]
    rfl

/-- The braces in a front part of the live characters open the level of a front part of the
lexemes. -/
theorem exists_prefix_of_prefix_live {p : List (Option Char)} {ls : List Lexeme}
    (h : p <+: ls.flatMap live) :
    ∃ front, front <+: ls ∧ (opened p : Int) = closed p + level front := by
  induction ls generalizing p with
  | nil => exact ⟨[], List.nil_prefix, by rw [List.prefix_nil.1 h]; rfl⟩
  | cons l ls ih =>
    rw [List.flatMap_cons] at h
    rcases List.prefix_or_prefix_of_prefix h (List.prefix_append l.live _) with hl | ⟨q, rfl⟩
    · obtain ⟨front, hfront, hlevel⟩ := brace_front hl
      exact ⟨front, hfront.trans (List.prefix_append [l] ls), hlevel⟩
    · obtain ⟨front, hfront, hlevel⟩ := ih ((List.prefix_append_right_inj l.live).1 h)
      have hl := opened_live l
      refine ⟨l :: front, List.cons_prefix_cons.2 ⟨rfl, hfront⟩, ?_⟩
      rw [opened_append, closed_append, level_cons]
      omega

/-- No front part of a nested sequence closes more than it opens. -/
theorem Nested.closed_le_opened {ls : List Lexeme} (h : Nested 0 ls) {p : List (Option Char)}
    (hp : p <+: ls.flatMap live) : closed p ≤ opened p := by
  obtain ⟨front, hfront, hlevel⟩ := exists_prefix_of_prefix_live hp
  have hnested := h front hfront
  omega

end Lexeme

end CssTrim
