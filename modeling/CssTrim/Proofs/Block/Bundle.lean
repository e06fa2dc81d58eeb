import CssTrim.Proofs.Block.Settled

/-!
# Stylesheets in one bundle

Two stylesheets, one directly behind the other, are read as the blocks of the
first one and then those of the second, provided that the first one ends between
two blocks.  There are three groups.

* Comments.  A comment is the only lexeme that may start outside a block and run
  to the end of the text.  One that ends with `*/` is read the same whatever
  follows it: `Text.spanComment_append_of_closed`.
* Whole pieces.  The last lexeme of a piece that ends by itself is such a
  comment or a plain character that ends a header, so the next text starts
  afresh behind it: `Piece.Whole.lexemes_append_closed`.
* The bundle.  `Text.endsBetween` says that no block and no comment is left
  open, and `Block.forall₂_agrees_segment_append` that the blocks are then those
  of the parts.  The blanks at the end of the first text belong to the first
  block of the second one, which says the same without them.
-/

namespace CssTrim

/-! ## Comments that are closed -/

/-- A comment with its end is read up to there whatever follows. -/
theorem Text.spanComment_append_of_closed {t body : Text}
    (h : (spanComment t).1 = body ++ ['*', '/']) (s : Text) :
    spanComment ((spanComment t).1 ++ s) = ((spanComment t).1, s) := by
  fun_induction spanComment t generalizing body with
  | case1 rest => rfl
  | case2 c rest hopen ih =>
    have hhead := head?_spanComment rest
    rw [Prod.map_fst] at h
    cases body with
    | nil =>
      -- the end would start with `c`, and the comment would have ended before
      obtain ⟨rfl, hslash⟩ := List.cons.inj h
      rw [hslash, List.head?_cons, eq_comm, List.head?_eq_some_iff] at hhead
      obtain ⟨after, rfl⟩ := hhead
      exact absurd rfl (hopen after rfl)
    | cons d body =>
      obtain ⟨-, htail⟩ := List.cons.inj h
      have hih := ih htail
      rw [Prod.map_fst, List.cons_append, spanComment, hih]
      · rfl
      · rintro more rfl hslash
        obtain ⟨e, tail, hfirst⟩ : ∃ e tail, (spanComment rest).1 = e :: tail :=
          List.exists_cons_of_ne_nil (by simp [htail])
        rw [hfirst, List.cons_append, List.cons.injEq] at hslash
        rw [hfirst, List.head?_cons, hslash.1, eq_comm, List.head?_eq_some_iff] at hhead
        obtain ⟨after, rfl⟩ := hhead
        exact hopen after rfl rfl
  | case3 => simp at h

namespace Lexeme

/-- Whether a lexeme is no comment that lacks its end. -/
def isClosed : Lexeme → Bool
  | comment rest => Text.endsWith rest ['*', '/']
  | _ => true

/-- A comment that is closed is read the same in front of every text. -/
theorem Reads.of_isClosed {r t : Text} (h : (comment r).Reads t)
    (hclosed : (comment r).isClosed) (s : Text) : (comment r).Reads s := by
  have hspan := reads_comment_iff.1 h
  obtain ⟨body, hbody⟩ := List.isSuffixOf_iff_suffix.1 hclosed
  have hlocal := Text.spanComment_append_of_closed
    (show (Text.spanComment (r ++ t)).1 = body ++ ['*', '/'] by rw [hspan, hbody]) s
  rw [hspan] at hlocal
  exact reads_comment_iff.2 hlocal

/-- A reading whose last lexeme may stand in front of every text may stand there as a whole. -/
theorem IsReading.lexemes_concat_append {xs : List Lexeme} {l : Lexeme}
    (h : IsReading (xs ++ [l])) {s : Text} (hl : l.Reads s) :
    Text.lexemes (textOf (xs ++ [l]) ++ s) = (xs ++ [l]) ++ Text.lexemes s := by
  have hhead : (l.text ++ s).head? = (textOf [l]).head? := by
    rw [head?_text_append, textOf_cons, head?_text_append]
  have hread := h.lexemes_append (List.cons_ne_nil l []) (s := l.text ++ s)
    (by rw [hhead]; exact id)
  rw [textOf_append, List.append_assoc, textOf_cons, textOf_nil, List.append_nil, hread, hl,
    List.append_assoc, List.singleton_append]

end Lexeme

namespace Piece

/-! ## Whole pieces -/

/-- The three characters that end a header are read the same in front of every text. -/
theorem reads_of_endsHeader {depth : Nat} {l : Lexeme} (h : endsHeader depth l) (s : Text) :
    l.Reads s := by
  rcases endsHeader_iff.1 h with rfl | rfl | ⟨rfl, _⟩
  all_goals
    exact Lexeme.reads_plain_iff.2
      ⟨by decide, fun hc => absurd hc (by decide), fun hc => absurd hc (by decide)⟩

/-- A whole piece without an open comment is read the same in front of every text. -/
theorem Whole.lexemes_append_closed {p : Piece} (hp : Whole p)
    (hread : Lexeme.IsReading p.lexemes) (hclosed : p.lexemes.all Lexeme.isClosed) (s : Text) :
    Text.lexemes (Lexeme.textOf p.lexemes ++ s) = p.lexemes ++ Text.lexemes s := by
  cases hp with
  | comment body =>
    have hcomment : (Lexeme.comment body).isClosed :=
      List.all_eq_true.1 hclosed _ List.mem_cons_self
    have hreads := (Lexeme.isReading_cons_iff.1 hread).1
    exact @Lexeme.IsReading.lexemes_concat_append [] _ hread s (hreads.of_isClosed hcomment s)
  | statement _ _ hstop _ => exact hread.lexemes_concat_append (reads_of_endsHeader hstop s)
  | @rule header inner _ _ _ _ =>
    have hclose : endsHeader 0 (.plain '\x7d') := endsHeader_iff.2 (.inr (.inl rfl))
    have hsplit : (Piece.rule header inner true).lexemes =
        (header ++ .plain '\x7b' :: inner) ++ [.plain '\x7d'] := rfl
    rw [hsplit] at hread ⊢
    exact hread.lexemes_concat_append (reads_of_endsHeader hclose s)

/-! ## The bundle -/

/-- A text that is cut into pieces that end by themselves, with every comment closed, is read as
these pieces in front of any other text.  The induction is on the cut. -/
theorem forall₂_agrees_append {ls : List Lexeme} {ps : List Piece} (hcut : Cut ls ps)
    (hread : Lexeme.IsReading ls) (hends : ∀ p ∈ ps, p.endsItself)
    (hclosed : ls.all Lexeme.isClosed) (s : Text) :
    List.Forall₂ Agrees (ofLexemes (Text.lexemes (Lexeme.textOf ls ++ s)))
      (ps ++ ofLexemes (Text.lexemes s)) := by
  induction hcut with
  | blanks h => exact forall₂_agrees_blank_append (Lexeme.isBlankText_textOf h) s
  | @whole lead rest p ps hlead hp hrest ih =>
    rw [List.all_append, List.all_append, Bool.and_eq_true, Bool.and_eq_true] at hclosed
    have hcore : Lexeme.IsReading (p.lexemes ++ rest) := hread.of_append_right
    have htail := ih hcore.of_append_right (List.forall_mem_cons.1 hends).2 hclosed.2.2
    have hpiece : ofLexemes (Text.lexemes
        (Lexeme.textOf p.lexemes ++ (Lexeme.textOf rest ++ s))) =
          p :: ofLexemes (Text.lexemes (Lexeme.textOf rest ++ s)) := by
      rw [hp.lexemes_append_closed hcore.of_append_left hclosed.2.1, hp.ofLexemes_lexemes_append]
    have hfront := forall₂_agrees_blank_append (Lexeme.isBlankText_textOf hlead)
      (Lexeme.textOf p.lexemes ++ (Lexeme.textOf rest ++ s))
    rw [hpiece] at hfront
    rw [Lexeme.textOf_append, Lexeme.textOf_append, List.append_assoc, List.append_assoc,
      List.cons_append]
    exact forall₂_agrees_trans hfront (.cons (agrees_behind hlead p).symm htail)
  | @unfinished lead p hlead hp =>
    have hend := hends _ List.mem_cons_self
    rw [hp.endsItself_eq_false hlead] at hend
    exact Bool.noConfusion hend

end Piece

/-- Whether a text ends outside of any header, body and comment: its blocks all end by themselves,
and its comments are closed. -/
def Text.endsBetween (t : Text) : Bool := t.isSettled && (lexemes t).all Lexeme.isClosed

namespace Block

/-- **The blocks of a bundle.**  Behind a text that ends between two blocks, the blocks of a
stylesheet say what they say alone. -/
theorem forall₂_agrees_segment_append {a : Text} (ha : a.endsBetween) (b : Text) :
    List.Forall₂ Agrees (segment (a ++ b)) (segment a ++ segment b) := by
  rw [Text.endsBetween, Text.isSettled, Bool.and_eq_true, List.all_eq_true] at ha
  have hpieces := Piece.forall₂_agrees_append (Piece.cut_ofLexemes (Text.lexemes a))
    (Lexeme.isReading_lexemes a) ha.1 ha.2 b
  rw [Text.textOf_lexemes] at hpieces
  exact forall₂_agrees_ofPieces 0 hpieces
    (List.rel_append (forall₂_ofPieces 0 _) (forall₂_ofPieces 0 _))

end Block

end CssTrim
