import CssTrim.Block.Segment

/-!
# Nested blocks are shorter

The pieces of a sequence of lexemes follow one another and leave blanks at the
end only.  A block that is nested in the body of another one therefore has a
shorter body, which is what recursion into nested rules needs.
-/

namespace CssTrim

namespace Piece

/-- The lexemes of a piece, with the braces of a rule. -/
def lexemes : Piece → List Lexeme
  | fragment source => source
  | rule header inner closed =>
    header ++ .plain '{' :: inner ++ (if closed then [.plain '}'] else [])

theorem spanHeader_append (depth : Nat) (ls : List Lexeme) :
    (spanHeader depth ls).1 ++ (spanHeader depth ls).2 = ls := by
  fun_induction spanHeader depth ls <;> simp_all

theorem spanBody_append {depth : Nat} {ls front back : List Lexeme}
    (h : spanBody depth ls = some (front, back)) : ls = front ++ .plain '}' :: back := by
  induction ls generalizing depth front back with
  | nil => simp [spanBody] at h
  | cons l rest ih =>
    have step : ∀ {d : Nat},
        (spanBody d rest).map (·.map (l :: ·) id) = some (front, back) →
          l :: rest = front ++ .plain '}' :: back := by
      intro d hd
      obtain ⟨p, hp, he⟩ := Option.map_eq_some_iff.1 hd
      have hfront : l :: p.1 = front := congrArg Prod.fst he
      have hback : p.2 = back := congrArg Prod.snd he
      rw [← hfront, ← hback, ih hp, List.cons_append]
    unfold spanBody at h
    split at h
    · exact step h
    · rename_i hne
      split at h
      · rename_i hclose
        cases depth with
        | zero =>
          simp only [Option.some.injEq, Prod.mk.injEq] at h
          rw [hclose, ← h.1, ← h.2, List.nil_append]
        | succ outer => exact step h
      · exact step h

/-- The lexemes of the pieces, followed by blanks, are the lexemes that were cut. -/
theorem ofLexemes_append (ls : List Lexeme) :
    ∃ tail, (ofLexemes ls).flatMap lexemes ++ tail = ls ∧ tail.all Lexeme.isBlank := by
  fun_induction ofLexemes ls with
  | case1 ls h =>
    refine ⟨ls, by simp, ?_⟩
    have hs := List.takeWhile_append_dropWhile (p := Lexeme.isBlank) (l := ls)
    rw [h, List.append_nil] at hs
    rw [← hs]
    exact List.all_takeWhile
  | case2 ls lead body rest h ih =>
    obtain ⟨tail, ht, hb⟩ := ih
    refine ⟨tail, ?_, hb⟩
    have hs := List.takeWhile_append_dropWhile (p := Lexeme.isBlank) (l := ls)
    rw [h] at hs
    simp only [List.flatMap_cons, lexemes, List.append_assoc, ht]
    simpa using hs
  | case3 ls lead first rest hne h front hcut =>
    refine ⟨[], ?_, rfl⟩
    have hs := List.takeWhile_append_dropWhile (p := Lexeme.isBlank) (l := ls)
    have hc := spanHeader_append 0 (first :: rest)
    rw [h] at hs
    rw [hcut] at hc
    simp only [List.append_nil] at hc
    simpa [lexemes, hc] using hs
  | case4 ls lead first rest hne h front rest₂ hbody hcut =>
    refine ⟨[], ?_, rfl⟩
    have hs := List.takeWhile_append_dropWhile (p := Lexeme.isBlank) (l := ls)
    have hc := spanHeader_append 0 (first :: rest)
    rw [h] at hs
    rw [hcut] at hc
    simp only at hc
    simpa [lexemes, hc] using hs
  | case5 ls lead first rest hne h front rest₂ inner rest₃ hbody hcut ih =>
    obtain ⟨tail, ht, hb⟩ := ih
    refine ⟨tail, ?_, hb⟩
    have hs := List.takeWhile_append_dropWhile (p := Lexeme.isBlank) (l := ls)
    have hc := spanHeader_append 0 (first :: rest)
    rw [h] at hs
    rw [hcut, spanBody_append hbody] at hc
    rw [← hc] at hs
    simp only [List.flatMap_cons, lexemes, List.append_assoc, ht, if_true]
    simpa [List.append_assoc] using hs
  | case6 ls lead first rest hne h front stop rest₂ hcut hstop ih =>
    obtain ⟨tail, ht, hb⟩ := ih
    refine ⟨tail, ?_, hb⟩
    have hs := List.takeWhile_append_dropWhile (p := Lexeme.isBlank) (l := ls)
    have hc := spanHeader_append 0 (first :: rest)
    rw [h] at hs
    rw [hcut] at hc
    rw [← hc] at hs
    simp only [List.flatMap_cons, lexemes, List.append_assoc, ht]
    simpa [List.append_assoc] using hs

end Piece

namespace Lexeme

@[simp] theorem textOf_append (xs ys : List Lexeme) :
    textOf (xs ++ ys) = textOf xs ++ textOf ys := List.flatMap_append

@[simp] theorem textOf_cons (l : Lexeme) (ls : List Lexeme) :
    textOf (l :: ls) = l.text ++ textOf ls := List.flatMap_cons

@[simp] theorem textOf_nil : textOf [] = [] := rfl

end Lexeme

namespace Block

/-- The text of a block is the text of its piece. -/
theorem source_ofPiece (order : Nat) (p : Piece) :
    (ofPiece order p).source = Lexeme.textOf p.lexemes := by
  cases p with
  | fragment source => rfl
  | rule header inner closed =>
    cases closed <;>
      simp only [ofPiece, ofRule, Piece.lexemes] <;> split <;>
      simp [Lexeme.text]

/-- The body of a block is no longer than its text. -/
theorem length_body_ofPiece_le (order : Nat) (p : Piece) :
    (ofPiece order p).body.length ≤ (ofPiece order p).source.length := by
  cases p with
  | fragment source =>
    simp only [ofPiece, ofFragment, Text.trim, Text.trimEnd, Text.trimStart, List.length_reverse]
    refine Nat.le_trans (List.dropWhile_suffix _).length_le ?_
    rw [List.length_reverse]
    exact (List.dropWhile_suffix _).length_le
  | rule header inner closed =>
    simp only [ofPiece, ofRule]
    split <;> simp

theorem mem_ofPieces {b : Block} {order : Nat} {ps : List Piece} (h : b ∈ ofPieces order ps) :
    ∃ p ∈ ps, ∃ n, b = ofPiece n p := by
  induction ps generalizing order with
  | nil => simp [ofPieces] at h
  | cons p rest ih =>
    rcases List.mem_cons.1 h with rfl | h
    · exact ⟨p, List.mem_cons_self, order, rfl⟩
    · obtain ⟨q, hq, n, he⟩ := ih h
      exact ⟨q, List.mem_cons_of_mem p hq, n, he⟩

theorem length_textOf_le_flatMap {p : Piece} {ps : List Piece} (h : p ∈ ps) :
    (Lexeme.textOf p.lexemes).length ≤ (Lexeme.textOf (ps.flatMap Piece.lexemes)).length := by
  induction ps with
  | nil => simp at h
  | cons q rest ih =>
    rw [List.flatMap_cons, Lexeme.textOf_append, List.length_append]
    rcases List.mem_cons.1 h with rfl | h
    · omega
    · have := ih h
      omega

/-- A block is no longer than the stylesheet that it was read from. -/
theorem length_body_segment_le {b : Block} {css : Text} (h : b ∈ segment css) :
    b.body.length ≤ css.length := by
  obtain ⟨p, hp, n, rfl⟩ := mem_ofPieces h
  obtain ⟨tail, ht, _⟩ := Piece.ofLexemes_append (Text.lexemes css)
  have h₁ := length_body_ofPiece_le n p
  have h₂ := length_textOf_le_flatMap hp
  have h₃ := congrArg (fun ls => (Lexeme.textOf ls).length) ht
  simp only [Lexeme.textOf_append, List.length_append, Text.textOf_lexemes] at h₃
  rw [source_ofPiece] at h₁
  omega

/-- What lies between the braces of a body is shorter than the body. -/
theorem length_inner_lt {b : Block} (h : b.body.head? = some '{') :
    b.inner.length < b.body.length := by
  cases hb : b.body with
  | nil => simp [hb] at h
  | cons c rest =>
    have hc : c = '{' := by simpa [hb] using h
    simp only [inner, hb, List.head?_cons, hc, if_true, List.tail_cons, List.length_cons]
    split
    · rw [List.length_dropLast]
      omega
    · omega

/-- A nested block has a shorter body. -/
theorem length_body_segmentInner_lt {b i : Block} (h : i ∈ b.segmentInner) :
    i.body.length < b.body.length := by
  unfold segmentInner segmentInnerWith at h
  split at h
  · simp at h
  · rename_i hb
    have hopen : b.body.head? = some '{' := by
      have := not_or.1 hb
      exact Decidable.not_not.1 this.2
    exact Nat.lt_of_le_of_lt (length_body_segment_le h) (length_inner_lt hopen)

end Block

end CssTrim
