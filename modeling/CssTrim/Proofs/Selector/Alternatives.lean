import CssTrim.Proofs.Selector.Scan
import CssTrim.Proofs.Text.Words

/-!
# The alternatives of a selector group

Splitting a selector group loses nothing but blanks and the commas between the
alternatives, and splitting an alternative once more does nothing.  There are
four groups.

* Pieces.  A group is the pieces that it is cut into with commas between them:
  `joinWith_splitCommas`.
* Pieces without cuts.  `Uncut` says that no comma of a text separates
  alternatives.  No piece has such a comma: `uncut_of_splitCommas`.
* Squeezing.  A piece that ends with a backslash and a blank loses the blank, and
  blanks inside quotes become one space.  `Uncut.squeeze` is the induction that
  says that no comma comes to separate alternatives by this.
* Commas that separate.  `Nesting.behind?` is what a text leaves open at its end,
  and `alternatives_append_comma` says that a comma behind a text that leaves
  nothing open is the end of an alternative.
-/

namespace CssTrim

namespace Text

/-! ## Pieces -/

theorem withoutBlanks_joinWith_comma (ts : List Text) :
    withoutBlanks (joinWith [','] ts) = joinWith [','] (ts.map withoutBlanks) := by
  have hcomma : withoutBlanks [','] = [','] := by decide
  induction ts with
  | nil => rfl
  | cons t ts ih =>
    cases ts with
    | nil => rw [List.map_singleton, joinWith_singleton, joinWith_singleton]
    | cons s ts =>
      rw [List.map_cons] at ih
      rw [List.map_cons, List.map_cons, joinWith_cons_cons, joinWith_cons_cons,
        withoutBlanks_append, withoutBlanks_append, ih, hcomma]

/-- Nothing is left of a text exactly when it is blank. -/
theorem isEmpty_squeeze (t : Text) : (squeeze t).isEmpty = isBlankText t := by
  induction t with
  | nil => rfl
  | cons c t ih =>
    rw [isBlankText_cons]
    cases hc : isBlank c with
    | true => rw [squeeze_cons_of_isBlank hc, ih, Bool.true_and]
    | false =>
      rw [squeeze_cons_eq hc]
      rfl

end Text

namespace Selector

/-- A group is its pieces with commas between them. -/
theorem joinWith_splitCommas (n : Nesting) (t : Text) :
    Text.joinWith [','] (splitCommas n t) = t := by
  fun_induction splitCommas n t with
  | case1 => rfl
  | case2 n c rest ih =>
    have hjoin := Text.joinWith_modifyHead_append [','] ['\\', c] (splitCommas_ne_nil n rest)
    rw [ih] at hjoin
    exact hjoin
  | case3 n c rest _ hcut ih =>
    obtain ⟨p, ps, hpieces⟩ := List.exists_cons_of_ne_nil (splitCommas_ne_nil n rest)
    rw [hpieces] at ih ⊢
    rw [Text.joinWith_cons_cons, ih, hcut.1]
    rfl
  | case4 n c rest _ _ ih =>
    rw [Text.joinWith_modifyHead [','] c (splitCommas_ne_nil _ rest), ih]

/-! ## Pieces without cuts -/

/-- Outside of everything there is only one nesting. -/
theorem Nesting.isOutside_iff {n : Nesting} : n.isOutside = true ↔ n = {} := by
  obtain ⟨parens, brackets, quote⟩ := n
  simp [isOutside, and_assoc]

theorem splitCommas_escape (n : Nesting) (c : Char) (rest : Text) :
    splitCommas n ('\\' :: c :: rest) = (splitCommas n rest).modifyHead (['\\', c] ++ ·) := by
  rw [splitCommas]
  rfl

/-- Whether no comma of a text that starts inside a nesting separates alternatives. -/
def Uncut (n : Nesting) (t : Text) : Prop := splitCommas n t = [t]

theorem uncut_nil (n : Nesting) : Uncut n [] := rfl

theorem modifyHead_append_eq_singleton_iff (front : Text) {ts : List Text} {t : Text} :
    ts.modifyHead (front ++ ·) = [front ++ t] ↔ ts = [t] := by
  cases ts with
  | nil => simp
  | cons s ss => simp

theorem uncut_escape_iff {n : Nesting} {c : Char} {t : Text} :
    Uncut n ('\\' :: c :: t) ↔ Uncut n t := by
  rw [Uncut, splitCommas_escape]
  exact modifyHead_append_eq_singleton_iff ['\\', c]

theorem uncut_cons_iff {n : Nesting} {c : Char} (hc : c ≠ '\\') {t : Text} :
    Uncut n (c :: t) ↔ ¬(c = ',' ∧ n.isOutside) ∧ Uncut (n.next c) t := by
  rw [Uncut, splitCommas_cons hc]
  split
  · rename_i hcut
    simp [hcut]
  · rename_i hcut
    rw [and_iff_right hcut]
    exact modifyHead_append_eq_singleton_iff [c]

/-- A backslash at the end of a text is no escape. -/
theorem uncut_backslash (n : Nesting) : Uncut n ['\\'] := by
  rw [Uncut, splitCommas]
  · simp [splitCommas]
  · simp

/-- A backslash that is no escape is the last character of a text. -/
theorem eq_nil_of_not_escape {c : Char} {rest : Text}
    (hescape : ∀ d more, c = '\\' → rest = d :: more → False) (hc : c = '\\') : rest = [] := by
  cases rest with
  | nil => rfl
  | cons d more => exact absurd rfl (hescape d more hc)

/-- No piece of a group has a comma that separates alternatives.  The pieces behind the first one
start outside of everything. -/
theorem uncut_of_splitCommas {n : Nesting} {t first : Text} {others : List Text}
    (h : splitCommas n t = first :: others) : Uncut n first ∧ ∀ p ∈ others, Uncut {} p := by
  fun_induction splitCommas n t generalizing first others with
  | case1 n =>
    obtain ⟨rfl, rfl⟩ := List.cons.inj h
    exact ⟨uncut_nil n, fun p hp => absurd hp List.not_mem_nil⟩
  | case2 n c rest ih =>
    obtain ⟨p, ps, hpieces⟩ := List.exists_cons_of_ne_nil (splitCommas_ne_nil n rest)
    rw [hpieces, List.modifyHead_cons] at h
    obtain ⟨rfl, rfl⟩ := List.cons.inj h
    obtain ⟨hfirst, hothers⟩ := ih hpieces
    exact ⟨uncut_escape_iff.2 hfirst, hothers⟩
  | case3 n c rest hescape hcut ih =>
    obtain ⟨p, ps, hpieces⟩ := List.exists_cons_of_ne_nil (splitCommas_ne_nil n rest)
    obtain ⟨rfl, rfl⟩ := List.cons.inj h
    obtain ⟨hfirst, hothers⟩ := ih hpieces
    obtain rfl := Nesting.isOutside_iff.1 hcut.2
    refine ⟨uncut_nil _, ?_⟩
    rw [hpieces]
    exact List.forall_mem_cons.2 ⟨hfirst, hothers⟩
  | case4 n c rest hescape hcut ih =>
    obtain ⟨p, ps, hpieces⟩ := List.exists_cons_of_ne_nil (splitCommas_ne_nil (n.next c) rest)
    rw [hpieces, List.modifyHead_cons] at h
    obtain ⟨rfl, rfl⟩ := List.cons.inj h
    obtain ⟨hfirst, hothers⟩ := ih hpieces
    refine ⟨?_, hothers⟩
    by_cases hc : c = '\\'
    · obtain rfl := eq_nil_of_not_escape hescape hc
      obtain ⟨rfl, rfl⟩ := List.cons.inj hpieces
      rw [hc]
      exact uncut_backslash n
    · exact (uncut_cons_iff hc).2 ⟨hcut, hfirst⟩

/-! ## Squeezing -/

namespace Nesting

/-- Whether the quote that a text stands inside, if any, is one. -/
def Proper (n : Nesting) : Prop := ∀ q ∈ n.quote, Text.isQuote q = true

theorem Proper.next {n : Nesting} (h : n.Proper) (c : Char) : (n.next c).Proper := by
  obtain ⟨parens, brackets, quote⟩ := n
  cases quote with
  | some q =>
    by_cases hq : c = q
    · simp [Nesting.next, Proper, hq]
    · simpa [Nesting.next, Proper, hq] using h
  | none =>
    cases hc : Text.isQuote c with
    | true => simp [Nesting.next, Proper, hc]
    | false =>
      simp only [Nesting.next, Proper, hc, if_neg Bool.false_ne_true]
      split_ifs <;> simp

/-- Blanks open and close nothing. -/
theorem next_of_isBlank {n : Nesting} (hn : n.Proper) {c : Char} (hc : Text.isBlank c = true) :
    n.next c = n := by
  have hplain : isPlain c = true := by
    have hsigns : "\x22\x27()[]\\".toList.any Text.isBlank = false := by decide
    rw [isPlain, Bool.not_eq_true', List.contains_eq_mem, decide_eq_false_iff_not]
    exact fun hmem => List.any_eq_false.1 hsigns c hmem hc
  cases hquote : n.quote with
  | none => exact next_of_isPlain hquote hplain
  | some q =>
    have hne : c ≠ q := by
      rintro rfl
      have hopens := hn c hquote
      rw [isQuote_of_isPlain hplain] at hopens
      exact Bool.noConfusion hopens
    rw [next, hquote]
    exact if_neg hne

end Nesting

theorem uncut_cons_of_isBlank {n : Nesting} (hn : n.Proper) {c : Char}
    (hc : Text.isBlank c = true) {t : Text} : Uncut n (c :: t) ↔ Uncut n t := by
  rw [uncut_cons_iff (ne_of_class hc (by decide)), Nesting.next_of_isBlank hn hc]
  exact and_iff_right fun hcomma => ne_of_class hc (by decide) hcomma.1

/-- The space in front of what is left of a text separates nothing. -/
theorem Uncut.squeezeBehind {n : Nesting} (hn : n.Proper) {t : Text}
    (h : Uncut n (Text.squeeze t)) : Uncut n (Text.squeezeBehind [] t) := by
  obtain ⟨gap, hgap, heq⟩ := Text.squeezeBehind_nil_cases t
  rw [heq]
  rcases hgap with rfl | rfl
  · exact h
  · exact (uncut_cons_of_isBlank hn (by decide)).2 h

/-- **Squeezing cuts nothing.**  The induction follows the scanner: a backslash takes the next
character with it, and if that is a blank, the space that is left of it. -/
theorem Uncut.squeeze {n : Nesting} (hn : n.Proper) {t : Text} (h : Uncut n t) :
    Uncut n (Text.squeeze t) := by
  fun_induction splitCommas n t with
  | case1 n => exact uncut_nil n
  | case2 n c rest ih =>
    have htail : Uncut n (Text.squeeze rest) := ih hn (uncut_escape_iff.1 h)
    rw [Text.squeeze_cons_eq (by decide)]
    cases hc : Text.isBlank c with
    | true =>
      rw [Text.squeezeBehind_cons_of_isBlank hc, Text.squeezeBehind_space]
      split
      · exact uncut_backslash n
      · exact uncut_escape_iff.2 htail
    | false =>
      rw [Text.squeezeBehind_cons hc, List.nil_append, uncut_escape_iff]
      exact htail.squeezeBehind hn
  | case3 n c rest hescape hcut _ =>
    obtain ⟨rfl, houtside⟩ := hcut
    exact absurd ⟨rfl, houtside⟩ ((uncut_cons_iff (by decide)).1 h).1
  | case4 n c rest hescape hcut ih =>
    cases hc : Text.isBlank c with
    | true =>
      rw [Nesting.next_of_isBlank hn hc] at ih
      rw [Text.squeeze_cons_of_isBlank hc]
      exact ih hn ((uncut_cons_of_isBlank hn hc).1 h)
    | false =>
      rw [Text.squeeze_cons_eq hc]
      by_cases hslash : c = '\\'
      · rw [eq_nil_of_not_escape hescape hslash, hslash]
        exact uncut_backslash n
      · obtain ⟨-, hrest⟩ := (uncut_cons_iff hslash).1 h
        have hnext := hn.next c
        exact (uncut_cons_iff hslash).2 ⟨hcut, (ih hnext hrest).squeezeBehind hnext⟩

/-- An alternative is a piece of its group without the blanks around it and with single spaces. -/
theorem exists_piece_of_mem_alternatives {t p : Text} (hp : p ∈ alternatives t) :
    ∃ piece ∈ splitCommas {} t, p = Text.squeeze piece ∧ p ≠ [] := by
  obtain ⟨hmem, hne⟩ := List.mem_filter.1 hp
  obtain ⟨piece, hpiece, rfl⟩ := List.mem_map.1 hmem
  exact ⟨piece, hpiece, rfl, by simpa using hne⟩

/-- An alternative is not cut any further. -/
theorem alternatives_of_mem {t p : Text} (hp : p ∈ alternatives t) : alternatives p = [p] := by
  obtain ⟨piece, hpiece, rfl, hne⟩ := exists_piece_of_mem_alternatives hp
  have huncut : Uncut {} piece := by
    obtain ⟨first, others, hpieces⟩ := List.exists_cons_of_ne_nil (splitCommas_ne_nil {} t)
    obtain ⟨hfirst, hothers⟩ := uncut_of_splitCommas hpieces
    rw [hpieces] at hpiece
    rcases List.mem_cons.1 hpiece with rfl | hpiece
    · exact hfirst
    · exact hothers piece hpiece
  have hproper : Nesting.Proper {} := by simp [Nesting.Proper]
  have hsqueezed : splitCommas {} (Text.squeeze piece) = [Text.squeeze piece] :=
    huncut.squeeze hproper
  rw [alternatives, hsqueezed, List.map_singleton, (Text.Spaced.of_squeeze hne).squeeze_eq]
  exact List.filter_cons_of_pos (by simpa using hne)

/-! ## Commas that separate -/

/-- What a text that starts inside a nesting leaves open at its end, unless it ends with a backslash
that would take the next character with it. -/
def Nesting.behind? (n : Nesting) : Text → Option Nesting
  | [] => some n
  | '\\' :: _ :: rest => behind? n rest
  | c :: rest => if c = '\\' then none else behind? (n.next c) rest

/-- Whether a comma behind a text separates alternatives. -/
def Separates (front : Text) : Prop := Nesting.behind? {} front = some {}

theorem modifyHead_append_of_ne_nil (f : Text → Text) {ts us : List Text} (hts : ts ≠ []) :
    (ts ++ us).modifyHead f = ts.modifyHead f ++ us := by
  obtain ⟨t, ts, rfl⟩ := List.exists_cons_of_ne_nil hts
  rfl

/-- A group is cut at a comma that separates.  What follows starts outside of everything. -/
theorem splitCommas_append_comma {n : Nesting} {front : Text} (h : n.behind? front = some {})
    (back : Text) :
    splitCommas n (front ++ ',' :: back) = splitCommas n front ++ splitCommas {} back := by
  fun_induction Nesting.behind? n front with
  | case1 n =>
    obtain rfl : n = {} := Option.some.inj h
    rfl
  | case2 n c rest ih =>
    rw [List.cons_append, List.cons_append, splitCommas_escape, splitCommas_escape, ih h,
      modifyHead_append_of_ne_nil _ (splitCommas_ne_nil n rest)]
  | case3 => cases h
  | case4 n c rest hescape hslash ih =>
    rw [List.cons_append, splitCommas_cons hslash, splitCommas_cons hslash, ih h]
    split
    · rename_i hcut
      obtain ⟨rfl, hn⟩ := hcut
      obtain rfl := Nesting.isOutside_iff.1 hn
      have hsame : Nesting.next {} ',' = {} := rfl
      rw [hsame] at ih
      rw [ih h]
      rfl
    · exact modifyHead_append_of_ne_nil _ (splitCommas_ne_nil _ rest)

theorem alternatives_append_comma {front : Text} (h : Separates front) (back : Text) :
    alternatives (front ++ ',' :: back) = alternatives front ++ alternatives back := by
  rw [alternatives, splitCommas_append_comma h, List.map_append, List.filter_append]
  rfl

/-! ## The alternatives of a group -/

/-- **Splitting a selector group is exact.**  Every alternative is a text of words with single spaces
between them that is not cut any further.  There are pieces, blank ones among them, that make up the
group with commas between them, blanks aside, and the alternatives are the pieces that are not blank,
squeezed, in order.  A comma outside of quotes and brackets ends an alternative. -/
theorem alternatives_exact (t : Text) :
    (∀ p ∈ alternatives t, p ≠ [] ∧ p = Text.squeeze p ∧ alternatives p = [p]) ∧
      (∃ pieces : List Text,
        Text.withoutBlanks t = Text.joinWith [','] (pieces.map Text.withoutBlanks) ∧
          alternatives t = (pieces.filter (!Text.isBlankText ·)).map Text.squeeze) ∧
        ∀ front back : Text, t = front ++ ',' :: back → Separates front →
          alternatives t = alternatives front ++ alternatives back := by
  refine ⟨?_, ⟨splitCommas {} t, ?_, ?_⟩, ?_⟩
  · intro p hp
    obtain ⟨piece, -, rfl, hne⟩ := exists_piece_of_mem_alternatives hp
    exact ⟨hne, (Text.Spaced.of_squeeze hne).squeeze_eq.symm, alternatives_of_mem hp⟩
  · rw [← Text.withoutBlanks_joinWith_comma, joinWith_splitCommas]
  · rw [alternatives, List.filter_map]
    congr 1
    apply List.filter_congr
    intro piece _
    show (!(Text.squeeze piece).isEmpty) = !Text.isBlankText piece
    rw [Text.isEmpty_squeeze]
  · rintro front back rfl hfront
    exact alternatives_append_comma hfront back

/-- A blank alternative, commas in quotes and brackets, an escaped comma, and a backslash whose blank
is lost. -/
theorem alternatives_exact_quoted :
    let front := " a  b , , [x=',']".toList
    let back := " :not(c, d) > e\\,f, g\\ ".toList
    let t := front ++ ',' :: back
    alternatives t =
        ["a b".toList, "[x=',']".toList, ":not(c, d) > e\\,f".toList, "g\\".toList] ∧
      "g\\".toList ∈ alternatives t ∧ alternatives "g\\".toList = ["g\\".toList] ∧
        Separates front ∧ alternatives t = alternatives front ++ alternatives back := by
  intro front back t
  have hall : alternatives t =
      ["a b".toList, "[x=',']".toList, ":not(c, d) > e\\,f".toList, "g\\".toList] := by
    decide +kernel
  have hmem : "g\\".toList ∈ alternatives t := by
    rw [hall]
    decide
  have hfront : Separates front := rfl
  obtain ⟨hwords, -, hcut⟩ := alternatives_exact t
  exact ⟨hall, hmem, (hwords _ hmem).2.2, hfront, hcut front back rfl hfront⟩

end Selector

end CssTrim
