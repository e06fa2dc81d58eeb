import CssTrim.Proofs.Text.Words
import CssTrim.Proofs.Usage.Literal
import CssTrim.Proofs.Usage.Mention
import CssTrim.Usage.Document

/-!
# Class expressions

The expressions that a class attribute may have in braces: string literals with
other text between them, where the holes of a template hold expressions again.
Are the classes of all literals found?  There are four groups.

* The grammar, the text of an expression and the literals in it.
* Where the pass over the literals stands.  It changes sides at every backquote,
  so it is outside of literals inside an even number of holes.
* What a literal mentions, with its holes cut out.
* `mem_classes_of_even_depth` is about the whole document.  Inside an odd number of
  holes literals are lost, as `classes_of_odd_depth` shows, and a template that
  holds templates is taken apart.
-/

namespace CssTrim.Usage

open Text

/-! ## The grammar -/

/-- The signs that mean something in an expression. -/
def codeSigns : Text := allQuotes ++ ['\x7b', '\x7d', '$', '\\']

/-- A text without such signs. -/
structure PlainText where
  text : Text
  isPlain : text.all (!codeSigns.contains ·)

theorem PlainText.not_mem_codeSigns (t : PlainText) : ∀ c ∈ t.text, c ∉ codeSigns := by
  intro c hc
  simpa using List.all_eq_true.1 t.isPlain c hc

theorem PlainText.not_mem (t : PlainText) {c : Char} (hc : c ∈ codeSigns) : c ∉ t.text :=
  fun hmem => t.not_mem_codeSigns c hmem hc

theorem PlainText.not_mem_allQuotes (t : PlainText) : ∀ c ∈ t.text, c ∉ allQuotes :=
  fun c hc hquote => t.not_mem_codeSigns c hc (List.mem_append_left _ hquote)

/-- The quotes of a literal without holes. -/
inductive Quote where
  | single
  | double

/-- The sign that is written for a quote. -/
def Quote.sign : Quote → Char
  | single => '\x27'
  | double => '\x22'

mutual

/-- Plain text and literals behind each other. -/
inductive Expression where
  | empty
  | plain (t : PlainText) (rest : Expression)
  | quoted (q : Quote) (t : PlainText) (rest : Expression)
  | template (body : Template) (rest : Expression)

/-- What stands in a template: plain text, and expressions in holes. -/
inductive Template where
  | empty
  | plain (t : PlainText) (rest : Template)
  | hole (e : Expression) (rest : Template)

end

mutual

/-- An expression as it is written. -/
def Expression.text : Expression → Text
  | .empty => []
  | .plain t rest => t.text ++ rest.text
  | .quoted q t rest => (q.sign :: (t.text ++ [q.sign])) ++ rest.text
  | .template body rest => ('\x60' :: (body.text ++ ['\x60'])) ++ rest.text

/-- The body of a template as it is written. -/
def Template.text : Template → Text
  | .empty => []
  | .plain t rest => t.text ++ rest.text
  | .hole e rest => ('$' :: '\x7b' :: (e.text ++ ['\x7d'])) ++ rest.text

end

/-- A literal, in quotes or with holes. -/
inductive Literal where
  | quoted (t : PlainText)
  | template (body : Template)

/-- What stands between the quotes of a literal. -/
def Literal.text : Literal → Text
  | quoted t => t.text
  | template body => body.text

/-- The plain parts of a template, between its holes. -/
def Template.segments : Template → List Text
  | .empty => [[]]
  | .plain t rest => rest.segments.modifyHead (t.text ++ ·)
  | .hole _ rest => [] :: rest.segments

/-- The plain parts of a literal. -/
def Literal.segments : Literal → List Text
  | quoted t => [t.text]
  | template body => body.segments

/-- The words of a literal. -/
def Literal.tokens (l : Literal) : List Text := l.segments.flatMap words

mutual

/-- The literals of an expression that stands inside of `depth` holes, each with the number of holes
around it. -/
def Expression.literalsAt (depth : Nat) : Expression → List (Nat × Literal)
  | .empty => []
  | .plain _ rest => rest.literalsAt depth
  | .quoted _ t rest => (depth, .quoted t) :: rest.literalsAt depth
  | .template body rest => (depth, .template body) :: body.literalsAt depth ++ rest.literalsAt depth

/-- The literals in the holes of a template that itself stands inside of `depth` holes. -/
def Template.literalsAt (depth : Nat) : Template → List (Nat × Literal)
  | .empty => []
  | .plain _ rest => rest.literalsAt depth
  | .hole e rest => e.literalsAt (depth + 1) ++ rest.literalsAt depth

end

/-! ## Where the pass stands -/

/-- Whether the pass stands where it does behind this many backquotes. -/
def StandsBehind (count : Nat) (stand : Option (Char × Text)) : Prop :=
  if count % 2 = 0 then stand = none else ∃ front, stand = some ('\x60', front)

namespace StandsBehind

variable {count : Nat} {stand : Option (Char × Text)}

theorem cases (h : StandsBehind count stand) :
    count % 2 = 0 ∧ stand = none ∨ count % 2 = 1 ∧ ∃ front, stand = some ('\x60', front) := by
  rw [StandsBehind] at h
  split at h
  · rename_i heven
    exact .inl ⟨heven, h⟩
  · rename_i hodd
    exact .inr ⟨by omega, h⟩

theorem none_of_even (heven : count % 2 = 0) : StandsBehind count none := by
  rw [StandsBehind, if_pos heven]

theorem some_of_odd (hodd : count % 2 = 1) (front : Text) :
    StandsBehind count (some ('\x60', front)) := by
  rw [StandsBehind, if_neg (by omega)]
  exact ⟨front, rfl⟩

end StandsBehind

theorem snd_passLiterals_append (stand : Option (Char × Text)) (s t : Text) :
    (passLiterals stand (s ++ t)).2 = (passLiterals (passLiterals stand s).2 t).2 := by
  rw [passLiterals_append]
  rfl

theorem mem_passLiterals_append {stand : Option (Char × Text)} {s t w : Text} :
    w ∈ (passLiterals stand (s ++ t)).1 ↔
      w ∈ (passLiterals stand s).1 ∨ w ∈ (passLiterals (passLiterals stand s).2 t).1 := by
  rw [passLiterals_append]
  exact List.mem_append

/-- Whether the pass goes through a text behind this many backquotes and finds those of the literals
that stand inside of an even number of holes.  A template must not hold another one. -/
def Passes (count : Nat) (s : Text) (ls : List (Nat × Literal)) : Prop :=
  ∀ stand, StandsBehind count stand → StandsBehind count (passLiterals stand s).2 ∧
    ∀ p ∈ ls, p.1 % 2 = 0 → '\x60' ∉ p.2.text → p.2.text ∈ (passLiterals stand s).1

namespace Passes

variable {count : Nat}

theorem append {s t : Text} {ls ms : List (Nat × Literal)} (hs : Passes count s ls)
    (ht : Passes count t ms) : Passes count (s ++ t) (ls ++ ms) := by
  intro stand hstand
  obtain ⟨hbehind, hls⟩ := hs stand hstand
  obtain ⟨hend, hms⟩ := ht _ hbehind
  refine ⟨by rwa [snd_passLiterals_append], ?_⟩
  intro p hp heven hflat
  rw [mem_passLiterals_append]
  rcases List.mem_append.1 hp with hp | hp
  · exact .inl (hls p hp heven hflat)
  · exact .inr (hms p hp heven hflat)

theorem nil : Passes count [] [] := by
  intro stand hstand
  rw [passLiterals]
  exact ⟨hstand, fun p hp => absurd hp List.not_mem_nil⟩

theorem of_forall {s : Text} (hs : ∀ c ∈ s, c ∉ allQuotes) : Passes count s [] := by
  intro stand hstand
  refine ⟨?_, fun p hp => absurd hp List.not_mem_nil⟩
  obtain ⟨heven, rfl⟩ | ⟨hodd, front, rfl⟩ := hstand.cases
  · rw [passLiterals_outside hs]
    exact .none_of_even heven
  · rw [passLiterals_inside fun hmem => hs _ hmem (by decide)]
    exact .some_of_odd hodd _

theorem quoted (q : Quote) (t : PlainText) :
    Passes count (q.sign :: (t.text ++ [q.sign])) [(count, .quoted t)] := by
  have hsign : q.sign ∈ allQuotes ∧ q.sign ∈ codeSigns ∧ '\x60' ≠ q.sign := by
    cases q <;> decide
  have hback : '\x60' ∉ q.sign :: (t.text ++ [q.sign]) := by
    have hplain := t.not_mem (by decide : '\x60' ∈ codeSigns)
    simp [hplain, hsign.2.2]
  intro stand hstand
  obtain ⟨heven, rfl⟩ | ⟨hodd, front, rfl⟩ := hstand.cases
  · have hpass : passLiterals none (q.sign :: (t.text ++ [q.sign])) = ([t.text], none) := by
      rw [passLiterals_open hsign.1, passLiterals_append,
        passLiterals_inside (t.not_mem hsign.2.1), passLiterals_close, passLiterals]
      rfl
    rw [hpass]
    refine ⟨.none_of_even heven, ?_⟩
    intro p hp _ _
    obtain rfl := List.mem_singleton.1 hp
    exact List.mem_singleton_self _
  · rw [passLiterals_inside hback]
    refine ⟨.some_of_odd hodd _, ?_⟩
    intro p hp heven _
    obtain rfl := List.mem_singleton.1 hp
    omega

/-- The backquotes around a body take the pass to the other side and back. -/
theorem template {body : Template} {ls : List (Nat × Literal)}
    (h : Passes (count + 1) body.text ls) :
    Passes count ('\x60' :: (body.text ++ ['\x60'])) ((count, .template body) :: ls) := by
  intro stand hstand
  rw [← List.singleton_append, snd_passLiterals_append, snd_passLiterals_append]
  simp only [mem_passLiterals_append]
  obtain ⟨heven, rfl⟩ | ⟨hodd, front, rfl⟩ := hstand.cases
  · have hopened : (passLiterals none ['\x60']).2 = some ('\x60', []) := by decide
    rw [hopened]
    obtain ⟨hbehind, hls⟩ := h _ (.some_of_odd (by omega) [])
    obtain ⟨hcount, -⟩ | ⟨-, back, hback⟩ := hbehind.cases
    · omega
    rw [hback, passLiterals_close, passLiterals]
    refine ⟨.none_of_even heven, ?_⟩
    intro p hp hdepth hflat
    rcases List.mem_cons.1 hp with rfl | hp
    · have hbody : '\x60' ∉ body.text := hflat
      rw [passLiterals_inside hbody] at hback
      obtain rfl : body.text = back := by simpa using hback
      exact .inr (.inr (List.mem_singleton_self _))
    · exact .inr (.inl (hls p hp hdepth hflat))
  · have hclosed : (passLiterals (some ('\x60', front)) ['\x60']).2 = none := by
      rw [passLiterals_close, passLiterals]
      rfl
    rw [hclosed]
    obtain ⟨hbehind, hls⟩ := h none (.none_of_even (by omega))
    obtain ⟨-, hback⟩ | ⟨hcount, -⟩ := hbehind.cases
    · rw [hback, passLiterals_open (by decide), passLiterals]
      refine ⟨.some_of_odd hodd [], ?_⟩
      intro p hp hdepth hflat
      rcases List.mem_cons.1 hp with rfl | hp
      · omega
      · exact .inr (.inl (hls p hp hdepth hflat))
    · omega

end Passes

mutual

/-- The induction over the grammar.  An expression inside of `depth` holes has as many backquotes
open before it. -/
theorem Expression.passes : ∀ (e : Expression) (depth : Nat),
    Passes depth e.text (e.literalsAt depth)
  | .empty, _ => .nil
  | .plain t rest, depth => (Passes.of_forall t.not_mem_allQuotes).append (rest.passes depth)
  | .quoted q t rest, depth => (Passes.quoted q t).append (rest.passes depth)
  | .template body rest, depth => (Passes.template (body.passes depth)).append (rest.passes depth)

theorem Template.passes : ∀ (b : Template) (depth : Nat),
    Passes (depth + 1) b.text (b.literalsAt depth)
  | .empty, _ => .nil
  | .plain t rest, depth => (Passes.of_forall t.not_mem_allQuotes).append (rest.passes depth)
  | .hole e rest, depth => by
    have hopen : Passes (depth + 1) ['$', '\x7b'] [] :=
      .of_forall (List.forall_mem_cons.2 ⟨by decide, List.forall_mem_singleton.2 (by decide)⟩)
    have hclose : Passes (depth + 1) ['\x7d'] [] :=
      .of_forall (List.forall_mem_singleton.2 (by decide))
    have hhole := hopen.append ((e.passes (depth + 1)).append hclose)
    rw [List.append_nil, List.nil_append] at hhole
    exact hhole.append (rest.passes depth)

end

/-! ## What a literal mentions -/

theorem Template.segments_ne_nil : ∀ b : Template, b.segments ≠ []
  | .empty => List.cons_ne_nil _ _
  | .plain t rest => by
    rw [Template.segments, Ne, List.modifyHead_eq_nil_iff]
    exact rest.segments_ne_nil
  | .hole _ _ => List.cons_ne_nil _ _

theorem Template.isPlain_of_mem_segments :
    ∀ (b : Template), ∀ s ∈ b.segments, ∀ c ∈ s, c ∉ codeSigns
  | .empty, s, hs, c, hc => by
    obtain rfl := List.mem_singleton.1 hs
    exact absurd hc List.not_mem_nil
  | .plain t rest, s, hs, c, hc => by
    have hrest := rest.isPlain_of_mem_segments
    obtain ⟨first, more, hsegments⟩ := List.exists_cons_of_ne_nil rest.segments_ne_nil
    rw [Template.segments, hsegments, List.modifyHead_cons] at hs
    rw [hsegments] at hrest
    rcases List.mem_cons.1 hs with rfl | hs
    · rcases List.mem_append.1 hc with hc | hc
      · exact t.not_mem_codeSigns c hc
      · exact hrest first List.mem_cons_self c hc
    · exact hrest s (List.mem_cons_of_mem first hs) c hc
  | .hole _ rest, s, hs, c, hc => by
    rcases List.mem_cons.1 hs with rfl | hs
    · exact absurd hc List.not_mem_nil
    · exact rest.isPlain_of_mem_segments s hs c hc

theorem Literal.isPlain_of_mem_segments (l : Literal) :
    ∀ s ∈ l.segments, ∀ c ∈ s, c ∉ codeSigns := by
  cases l with
  | quoted t => exact List.forall_mem_singleton.2 t.not_mem_codeSigns
  | template body => exact body.isPlain_of_mem_segments

/-- An expression without templates has no braces. -/
theorem Expression.brace_not_mem : ∀ e : Expression, '\x60' ∉ e.text → '\x7d' ∉ e.text
  | .empty, _ => List.not_mem_nil
  | .plain t rest, hflat => by
    rw [Expression.text, List.mem_append, not_or] at hflat ⊢
    exact ⟨t.not_mem (by decide), rest.brace_not_mem hflat.2⟩
  | .quoted q t rest, hflat => by
    rw [Expression.text, List.mem_append, not_or] at hflat ⊢
    have hquoted : '\x7d' ∉ q.sign :: (t.text ++ [q.sign]) := by
      have hplain := t.not_mem (by decide : '\x7d' ∈ codeSigns)
      cases q <;> simp [hplain, Quote.sign]
    exact ⟨hquoted, rest.brace_not_mem hflat.2⟩
  | .template body rest, hflat => absurd List.mem_cons_self hflat

/-- The holes of a template without templates inside are replaced by spaces. -/
theorem Template.replaceAll_hole : ∀ b : Template, '\x60' ∉ b.text →
    Usage.hole.replaceAll [' '] b.text = joinWith [' '] b.segments
  | .empty, _ => rfl
  | .plain t rest, hflat => by
    rw [Template.text, List.mem_append, not_or] at hflat
    rw [Template.text, replaceAll_hole_append (t.not_mem (by decide)), rest.replaceAll_hole hflat.2,
      Template.segments, joinWith_modifyHead_append [' '] t.text rest.segments_ne_nil]
  | .hole e rest, hflat => by
    have hsplit : (Template.hole e rest).text =
        '$' :: '\x7b' :: (e.text ++ '\x7d' :: rest.text) := by
      simp [Template.text]
    rw [hsplit] at hflat ⊢
    have hparts : '\x60' ∉ e.text ∧ '\x60' ∉ rest.text := by simpa using hflat
    obtain ⟨first, more, hsegments⟩ := List.exists_cons_of_ne_nil rest.segments_ne_nil
    rw [replaceAll_hole_cons (e.brace_not_mem hparts.1), rest.replaceAll_hole hparts.2,
      Template.segments, hsegments, joinWith_cons_cons, List.nil_append]

theorem Literal.replaceAll_hole (l : Literal) (hflat : '\x60' ∉ l.text) :
    Usage.hole.replaceAll [' '] l.text = joinWith [' '] l.segments := by
  cases l with
  | quoted t =>
    have hplain := replaceAll_hole_append (t.not_mem (by decide : '$' ∈ codeSigns)) [' '] []
    rw [List.append_nil] at hplain
    rw [Literal.text, Literal.segments, joinWith_singleton, hplain]
    exact List.append_nil t.text
  | template body => exact body.replaceAll_hole hflat

/-- The words of a literal are the classes that are read in it. -/
theorem Literal.mem_classNames {l : Literal} (hflat : '\x60' ∉ l.text) {w : Text}
    (hw : w ∈ l.tokens) : w ∈ classNames l.text := by
  have hwords : w ∈ words (Usage.hole.replaceAll [' '] l.text) := by
    rw [l.replaceAll_hole hflat, words_joinWith (by decide)]
    exact hw
  obtain ⟨s, hs, hw⟩ := List.mem_flatMap.1 hw
  have hplain : ∀ c ∈ codeSigns, c ∉ w := fun c hsign hc =>
    l.isPlain_of_mem_segments s hs c (mem_of_mem_splitOn (List.mem_filter.1 hw).1 hc).1 hsign
  have hbrace : ∀ b ∈ strayBraces, '\x7b' ∈ b ∨ '\x7d' ∈ b := by decide
  have hname : w ∉ strayBraces := by
    intro hmem
    rcases hbrace w hmem with hc | hc
    · exact hplain _ (by decide) hc
    · exact hplain _ (by decide) hc
  exact List.mem_filter.2 ⟨hwords, by simpa using hname⟩

/-! ## Documents -/

theorem PlainText.braced (t : PlainText) : Braced t.text := by
  refine .of_forall fun c hc => ⟨?_, ?_⟩
  · rintro rfl
    exact t.not_mem (by decide) hc
  · rintro rfl
    exact t.not_mem (by decide) hc

mutual

theorem Expression.braced : ∀ e : Expression, Braced e.text
  | .empty => .nil
  | .plain t rest => t.braced.append rest.braced
  | .quoted q t rest => (t.braced.around (by cases q <;> decide)).append rest.braced
  | .template body rest => (body.braced.around (by decide)).append rest.braced

theorem Template.braced : ∀ b : Template, Braced b.text
  | .empty => .nil
  | .plain t rest => t.braced.append rest.braced
  | .hole e rest =>
    have hdollar : Braced ['$'] := .of_forall (List.forall_mem_singleton.2 (by decide))
    (hdollar.append e.braced.braces).append rest.braced

end

mutual

theorem Expression.backslash_not_mem : ∀ e : Expression, '\\' ∉ e.text
  | .empty => List.not_mem_nil
  | .plain t rest => by
    rw [Expression.text, List.mem_append, not_or]
    exact ⟨t.not_mem (by decide), rest.backslash_not_mem⟩
  | .quoted q t rest => by
    have hplain := t.not_mem (by decide : '\\' ∈ codeSigns)
    cases q <;> simp [Expression.text, Quote.sign, hplain, rest.backslash_not_mem]
  | .template body rest => by
    simp [Expression.text, body.backslash_not_mem, rest.backslash_not_mem]

theorem Template.backslash_not_mem : ∀ b : Template, '\\' ∉ b.text
  | .empty => List.not_mem_nil
  | .plain t rest => by
    rw [Template.text, List.mem_append, not_or]
    exact ⟨t.not_mem (by decide), rest.backslash_not_mem⟩
  | .hole e rest => by
    simp [Template.text, e.backslash_not_mem, rest.backslash_not_mem]

end

theorem classExpression_eq (before : Option Char) (t : Text) :
    classExpression before t =
      if startsAttribute before then
        (after? "className".toList t).bind fun behind => (equals? behind).bind fun opened =>
          (after? ['\x7b'] opened).bind fun rest => some (bracedText 0 rest, rest)
      else none := by
  unfold classExpression
  cases startsAttribute before <;> rfl

theorem classExpression_eq_none {before : Option Char} {c : Char} (hc : c ≠ 'c') (t : Text) :
    classExpression before (c :: t) = none := by
  have hname : after? "className".toList (c :: t) = none := by
    rw [Option.eq_none_iff_forall_ne_some]
    intro rest hrest
    exact hc (List.cons.inj (after?_eq_some_iff.1 hrest)).1
  rw [classExpression_eq, hname, Option.bind_none, ite_self]

/-- The expression of a class attribute is read as it is written. -/
theorem Expression.classExpression_append (e : Expression) {before : Option Char}
    (hbefore : startsAttribute before = true) (more : Text) :
    classExpression before ("className=\x7b".toList ++ (e.text ++ '\x7d' :: more)) =
      some (e.text, e.text ++ '\x7d' :: more) := by
  have hname : after? "className".toList ("className=\x7b".toList ++ (e.text ++ '\x7d' :: more)) =
      some ("=\x7b".toList ++ (e.text ++ '\x7d' :: more)) := after?_eq_some_iff.2 rfl
  have hequals : equals? ("=\x7b".toList ++ (e.text ++ '\x7d' :: more)) =
      some ('\x7b' :: (e.text ++ '\x7d' :: more)) :=
    equals?_eq_some_iff.2 ⟨[], _, rfl, rfl, trimStart_cons (by decide) _⟩
  have hbrace : after? ['\x7b'] ('\x7b' :: (e.text ++ '\x7d' :: more)) =
      some (e.text ++ '\x7d' :: more) := after?_eq_some_iff.2 rfl
  have hbraced : bracedText 0 (e.text ++ '\x7d' :: more) = e.text := by
    rw [e.braced]
    exact List.append_nil e.text
  rw [classExpression_eq, if_pos hbefore, hname, Option.bind_some, hequals, Option.bind_some,
    hbrace, Option.bind_some, hbraced]

/-- A document whose only element has an expression for its class. -/
def Expression.document (e : Expression) : Text :=
  "<div className=\x7b".toList ++ (e.text ++ "\x7d>".toList)

/-- In front of the class attribute there is no place where an expression could be read. -/
theorem Expression.mem_findAll_classExpression (e : Expression) :
    e.text ∈ classExpression.findAll e.document := by
  have hplace : (some ' ', "className=\x7b".toList ++ (e.text ++ "\x7d>".toList)) ∈
      places e.document :=
    mem_places_iff.2 ⟨List.cons_ne_nil _ _, "<div ".toList, rfl, by decide⟩
  refine Recognizer.mem_findAll hplace (e.classExpression_append (by decide) ['>']) ?_
  rintro ⟨before, v⟩ hv p hlt hfound
  obtain ⟨front, hfront, rfl, -⟩ := exists_append_of_mem_places hplace hv hlt
  obtain ⟨-, start, hstart, -⟩ := mem_places_iff.1 hv
  have hdiv : "<div ".toList = start ++ front := by
    rw [← List.append_assoc] at hstart
    exact List.append_cancel_right hstart
  obtain ⟨c, front, rfl⟩ := List.exists_cons_of_ne_nil hfront
  have hc : c ≠ 'c' := by
    have hmem : c ∈ "<div ".toList := by simp [hdiv]
    exact ne_of_mem_of_not_mem hmem (by decide)
  rw [List.cons_append, classExpression_eq_none hc] at hfound
  cases hfound

/-- **Every literal inside of an even number of holes is taken.**  The words of each literal of an
expression are classes of its document, to any depth, if the number of holes around the literal is
even, and no template stands in the holes of the literal itself. -/
theorem mem_classes_of_even_depth (e : Expression) {depth : Nat} {l : Literal}
    (hl : (depth, l) ∈ e.literalsAt 0) (heven : depth % 2 = 0) (hflat : '\x60' ∉ l.text)
    {w : Text} (hw : w ∈ l.tokens) : w ∈ (ofDocument .jsx e.document).classes := by
  obtain ⟨hbehind, hfound⟩ := e.passes 0 none (.none_of_even rfl)
  obtain ⟨-, hend⟩ | ⟨hodd, -⟩ := hbehind.cases
  · have hliteral : l.text ∈ literals e.text := by
      rw [literals_eq_pass e.backslash_not_mem hend]
      exact hfound _ hl heven hflat
    have hclass : w ∈ literalClasses e.text :=
      List.mem_flatMap.2 ⟨l.text, hliteral, Literal.mem_classNames hflat hw⟩
    have hattribute : w ∈ attributeClasses e.document :=
      List.mem_append_right _
        (List.mem_flatMap.2 ⟨e.text, e.mem_findAll_classExpression, hclass⟩)
    have hcommon : w ∈ commonClasses e.document := List.mem_append_left _ hattribute
    exact mem_classes_ofMentions (List.mem_append_left _ (List.mem_map_of_mem hcommon))
  · omega

/-- A literal inside of two holes. -/
theorem mem_classes_of_even_depth_two :
    let z : PlainText := ⟨['z'], by decide⟩
    let inner : Template := .hole (.quoted .single z .empty) .empty
    let e : Expression := .template (.hole (.template inner .empty) .empty) .empty
    e.text = "\x60$\x7b\x60$\x7b'z'\x7d\x60\x7d\x60".toList ∧
      (2, .quoted z) ∈ e.literalsAt 0 ∧ '\x60' ∉ (Literal.quoted z).text ∧
        ['z'] ∈ (Literal.quoted z).tokens ∧ ['z'] ∈ (ofDocument .jsx e.document).classes := by
  intro z inner e
  have hl : (2, .quoted z) ∈ e.literalsAt 0 := by
    simp [e, inner, Expression.literalsAt, Template.literalsAt]
  have hflat : '\x60' ∉ (Literal.quoted z).text := by decide
  have hw : ['z'] ∈ (Literal.quoted z).tokens := by decide
  exact ⟨by decide, hl, hflat, hw, mem_classes_of_even_depth e hl (by decide) hflat hw⟩

/-- A literal in a hole of a template is cut out with the hole. -/
theorem classes_of_odd_depth :
    let x : PlainText := ⟨['x'], by decide⟩
    let e : Expression := .template (.hole (.quoted .single x .empty) .empty) .empty
    e.document = "<div className=\x7b\x60$\x7b'x'\x7d\x60\x7d>".toList ∧
      (1, .quoted x) ∈ e.literalsAt 0 ∧ ['x'] ∈ (Literal.quoted x).tokens ∧
        (ofDocument .jsx e.document).classes = ∅ := by
  intro x e
  have hl : (1, .quoted x) ∈ e.literalsAt 0 := by
    simp [e, Expression.literalsAt, Template.literalsAt]
  exact ⟨by decide, hl, by decide, by decide +kernel⟩

/-- A template in a hole ends the template around it, and the word in front of the hole is lost. -/
example : literalClasses "\x60x$\x7b\x60\x60\x7d\x60".toList = ["x$\x7b".toList] := by
  decide +kernel

end CssTrim.Usage
