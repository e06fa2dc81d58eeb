import CssTrim.Proofs.Selector.Grammar

/-!
# Reading selectors undoes writing them

Three functions take a selector apart: `alternatives` cuts a group at its commas,
`compounds` a complex selector at its combinators, and `simples` reads the simple
selectors, those of nested groups included.  Each of them gives back what a
selector of the grammar was put together from.  There are four groups.

* Groups and complex selectors.  Their texts are closed, so that a cut comes only
  where the next member or compound selector starts.
* Simple selectors, one equation of `simples` for every form that they are written
  in.
* The induction over the grammar.  The text of a part is read up to its end, which
  `EndsPart` describes, whatever follows it.
* `reads_written` puts the three together.
-/

namespace CssTrim.Selector

/-! ## Groups -/

/-- A complex selector is cut off at the comma behind it. -/
theorem splitCommas_complex (s : Complex) (rest : Text) :
    splitCommas {} (s.text ++ ',' :: rest) = s.text :: splitCommas {} rest := by
  rw [s.closed.splitCommas_append rfl (.inl (by decide)), splitCommas_cons (by decide),
    if_pos ⟨rfl, rfl⟩, List.modifyHead_cons, List.append_nil]

/-- The last complex selector is not cut. -/
theorem splitCommas_complex_nil (s : Complex) : splitCommas {} s.text = [s.text] := by
  have h := s.closed.splitCommas_append (n := {}) rfl (.inl (by decide)) []
  rw [List.append_nil] at h
  rw [h, splitCommas, List.modifyHead_cons, List.append_nil]

/-- The space behind a comma does not matter. -/
theorem map_squeeze_splitCommas_space (rest : Text) :
    (splitCommas {} (' ' :: rest)).map Text.squeeze = (splitCommas {} rest).map Text.squeeze := by
  have hspace : splitCommas {} (' ' :: rest) = (splitCommas {} rest).modifyHead (' ' :: ·) := by
    rw [splitCommas_cons (by decide), if_neg (by decide), Nesting.next_of_isPlain rfl (by decide)]
  rw [hspace]
  cases splitCommas {} rest with
  | nil => rfl
  | cons t ts =>
    rw [List.modifyHead_cons, List.map_cons, List.map_cons,
      Text.squeeze_cons_of_isBlank (by decide)]

/-- The pieces of a group are its members, but for the spaces in front of them. -/
theorem map_squeeze_splitCommas (s : Complex) (others : List Complex) :
    (splitCommas {} (Text.joinWith ", ".toList ((s :: others).map Complex.text))).map
      Text.squeeze = (s :: others).map Complex.text := by
  induction others generalizing s with
  | nil =>
    rw [List.map_singleton, Text.joinWith_singleton, splitCommas_complex_nil, List.map_singleton,
      s.spaced.squeeze_eq]
  | cons t others ih =>
    have hjoin : Text.joinWith ", ".toList ((s :: t :: others).map Complex.text) =
        s.text ++ ',' :: ' ' :: Text.joinWith ", ".toList ((t :: others).map Complex.text) :=
      Text.joinWith_cons_cons _ _ _ _
    rw [hjoin, splitCommas_complex, List.map_cons, map_squeeze_splitCommas_space, ih,
      s.spaced.squeeze_eq]
    rfl

/-- A selector group is read as its members. -/
theorem alternatives_joinWith (ss : List Complex) :
    alternatives (Text.joinWith ", ".toList (ss.map Complex.text)) = ss.map Complex.text := by
  cases ss with
  | nil => rfl
  | cons s others =>
    rw [alternatives, map_squeeze_splitCommas, List.filter_eq_self]
    intro t ht
    obtain ⟨member, -, rfl⟩ := List.mem_map.1 ht
    simpa using member.spaced.ne_nil

theorem alternatives_text (g : Group) : alternatives g.text = g.members.map Complex.text := by
  rw [g.text_eq, alternatives_joinWith]

/-! ## Complex selectors -/

/-- The characters of a combinator leave only empty pieces. -/
theorem splitCombinators_combinator (k : Combinator) (rest : Text) :
    ∃ n, splitCombinators (k.text ++ rest) =
      [] :: (List.replicate n [] ++ splitCombinators rest) := by
  have hspace : ∀ t : Text, splitCombinators (' ' :: t) = [] :: splitCombinators t :=
    splitCombinators_of_isCombinator (by decide)
  cases k with
  | descendant => exact ⟨0, hspace rest⟩
  | child | next | subsequent =>
    refine ⟨2, (hspace _).trans (congrArg _ ?_)⟩
    exact (splitCombinators_of_isCombinator (by decide) _).trans (congrArg _ (hspace rest))

/-- A compound selector is cut off at the combinator behind it. -/
theorem compounds_combined (c : Compound) (k : Combinator) (rest : Text) :
    compounds (c.text ++ (k.text ++ rest)) = c.text :: compounds rest := by
  obtain ⟨n, hgap⟩ := splitCombinators_combinator k rest
  have hne : c.text.isEmpty = false := by simpa using c.spaced.ne_nil
  rw [compounds, c.closed.splitCombinators_append fun _ => isCombinator_of_inCompound, hgap,
    List.modifyHead_cons, List.append_nil, List.filter_cons, hne, List.filter_append,
    List.filter_replicate]
  rfl

theorem compounds_compound (c : Compound) : compounds c.text = [c.text] := by
  have h := c.closed.splitCombinators_append (fun _ => isCombinator_of_inCompound) []
  have hne : c.text.isEmpty = false := by simpa using c.spaced.ne_nil
  rw [List.append_nil, splitCombinators, List.modifyHead_cons, List.append_nil] at h
  rw [compounds, h, List.filter_singleton, hne]
  rfl

/-- A complex selector is read as its compound selectors. -/
theorem compounds_text (s : Complex) :
    compounds s.text = s.compoundSelectors.map Compound.text := by
  cases s with
  | single c => exact compounds_compound c
  | combined c k rest =>
    rw [Complex.text, compounds_combined, compounds_text rest]
    rfl

/-! ## Simple selectors -/

theorem simples_nil : simples [] = [] := by rw [simples]

theorem simples_className (rest : Text) :
    simples ('.' :: rest) = consNamed .className (readName rest).1 (simples (readName rest).2) := by
  rw [simples, if_pos rfl]

theorem simples_id (rest : Text) :
    simples ('#' :: rest) = consNamed .id (readName rest).1 (simples (readName rest).2) := by
  rw [simples, if_neg (by decide), if_pos rfl]

theorem simples_attr (rest : Text) :
    simples ('[' :: rest) =
      .attr ('[' :: (spanBrackets rest).1) :: simples (spanBrackets rest).2 := by
  rw [simples, if_neg (by decide), if_neg (by decide), if_pos rfl]

/-- What no simple selector starts with is left out. -/
theorem simples_skip {c : Char} (hc : c ∉ ".#[:\\".toList) (hname : isNameChar c = false)
    (rest : Text) : simples (c :: rest) = simples rest := by
  have hread := readName_of_endsName (endsName_cons hname (fun h => hc (by simp [h])) rest)
  have hne : ∀ d ∈ ".#[:\\".toList, c ≠ d := fun d hd h => hc (h ▸ hd)
  rw [simples, if_neg (hne '.' (by decide)), if_neg (hne '#' (by decide)),
    if_neg (hne '[' (by decide)), if_neg (hne ':' (by decide)), hread, dif_pos rfl]

/-- A tag. -/
theorem simples_tag {name rest : Text} (hne : name ≠ []) (hname : ∀ c ∈ name, isNameChar c = true)
    (hrest : EndsName rest) :
    simples (name ++ rest) = .tag (Text.lower name) :: simples rest := by
  obtain ⟨c, more, rfl⟩ := List.exists_cons_of_ne_nil hne
  have hc := (List.forall_mem_cons.1 hname).1
  have hread := readName_append hname hrest
  rw [List.cons_append] at hread ⊢
  rw [simples, if_neg (ne_of_class hc (by decide)), if_neg (ne_of_class hc (by decide)),
    if_neg (ne_of_class hc (by decide)), if_neg (ne_of_class hc (by decide)), hread,
    dif_neg (List.cons_ne_nil c more)]

/-- A pseudo-class or pseudo-element without an argument. -/
theorem simples_colon {rest name left : Text} (hread : readName (spanColon rest).2 = (name, left))
    (hleft : left.head? ≠ some '(') :
    simples (':' :: rest) =
      .pseudo (':' :: rest.take (rest.length - left.length)) :: simples left := by
  rw [simples, if_neg (by decide), if_neg (by decide), if_neg (by decide), if_pos rfl]
  dsimp only
  split
  · rename_i args hopen
    rw [hread] at hopen
    rw [show left = '(' :: args from hopen] at hleft
    exact absurd rfl hleft
  · rw [hread]

/-- A pseudo-class with an argument. -/
theorem simples_colon_paren {rest name args : Text}
    (hread : readName (spanColon rest).2 = (name, '(' :: args)) :
    simples (':' :: rest) =
      .pseudo (':' :: rest.take (rest.length - (args.length + 1)) ++ '(' :: (spanParens args).1) ::
        ((if groupPseudos.contains (Text.lower name) then
            (alternatives (argument (spanParens args).1)).flatMap simples
          else []) ++ simples (spanParens args).2) := by
  rw [simples, if_neg (by decide), if_neg (by decide), if_neg (by decide), if_pos rfl]
  dsimp only
  split
  · rename_i more hopen
    rw [hread] at hopen
    obtain rfl : args = more := (List.cons.inj hopen).2
    have hnested : (alternatives (argument (spanParens args).1)).attach.flatMap
        (fun x => simples x.1) = (alternatives (argument (spanParens args).1)).flatMap simples := by
      rw [← List.flatMap_map Subtype.val simples, List.attach_map_subtype_val]
    rw [hread, hnested]
    rfl
  · rename_i hnone
    exact absurd (congrArg Prod.snd hread) (hnone args)

/-- An attribute selector. -/
theorem simples_brackets {inner : Text} (h : Closed (fun _ => true) inner) (rest : Text) :
    simples ('[' :: inner ++ [']'] ++ rest) = .attr ('[' :: inner ++ [']']) :: simples rest := by
  have hspan : spanBrackets (inner ++ ']' :: rest) = (inner ++ [']'], rest) :=
    h.spanGroup_close (by decide : ('[', ']') ∈ bracketPairs) rest
  rw [List.append_assoc, List.cons_append, List.singleton_append, simples_attr, hspan,
    List.cons_append]

theorem take_append_left (s rest : Text) :
    (s ++ rest).take ((s ++ rest).length - rest.length) = s := by
  rw [List.length_append, Nat.add_sub_cancel, List.take_left]

theorem argument_concat (t : Text) : argument (t ++ [')']) = t := by
  rw [argument, List.getLast?_concat, if_pos rfl, List.dropLast_concat]

namespace Name

theorem readName_append (n : Name) {rest : Text} (h : EndsName rest) :
    readName (n.text ++ rest) = (n.text, rest) :=
  Selector.readName_append (fun c hc => (n.isName c hc).1) h

theorem spanColon_append (n : Name) (rest : Text) :
    spanColon (n.text ++ rest) = ([], n.text ++ rest) := by
  obtain ⟨c, more, hcons⟩ := List.exists_cons_of_ne_nil n.ne_nil
  have hc : c ≠ ':' :=
    ne_of_class (n.isName c (hcons ▸ List.mem_cons_self)).1 (by decide)
  rw [hcons, List.cons_append, spanColon]
  rintro more' ⟨⟩
  exact hc rfl

theorem consNamed_text (n : Name) (make : Text → SimpleSelector) (tail : List SimpleSelector) :
    consNamed make n.text tail = make n.text :: tail := by
  rw [consNamed, List.isEmpty_eq_false_iff.2 n.ne_nil]
  rfl

end Name

/-- A functional pseudo-class whose argument is a selector group. -/
theorem simples_functional {n : Name} (hname : n.text ∈ groupPseudos) {inner : Text}
    (hinner : Closed (fun _ => true) inner) (rest : Text) :
    simples (':' :: n.text ++ ('(' :: inner ++ [')']) ++ rest) =
      .pseudo (':' :: n.text ++ ('(' :: inner ++ [')'])) ::
        ((alternatives inner).flatMap simples ++ simples rest) := by
  have hlower : ∀ f ∈ groupPseudos, groupPseudos.contains (Text.lower f) = true := by decide
  have hends : EndsName ('(' :: (inner ++ ')' :: rest)) :=
    endsName_cons (by decide) (by decide) _
  have hread : readName (spanColon (n.text ++ '(' :: (inner ++ ')' :: rest))).2 =
      (n.text, '(' :: (inner ++ ')' :: rest)) := by
    rw [n.spanColon_append, n.readName_append hends]
  have hspan : spanParens (inner ++ ')' :: rest) = (inner ++ [')'], rest) :=
    hinner.spanGroup_close (by decide : ('(', ')') ∈ bracketPairs) rest
  have htake := take_append_left n.text ('(' :: (inner ++ ')' :: rest))
  rw [List.length_cons] at htake
  rw [List.append_assoc, List.append_assoc, List.cons_append, List.cons_append,
    List.singleton_append, simples_colon_paren hread, hspan, htake, argument_concat,
    if_pos (hlower _ hname)]
  rfl

/-! ## The induction over the grammar -/

/-- Whether no part of a compound selector goes on at the start of a text. -/
def EndsPart (rest : Text) : Prop := EndsName rest ∧ rest.head? ≠ some '('

theorem endsPart_nil : EndsPart [] := ⟨endsName_nil, by decide⟩

theorem endsPart_cons {c : Char} (hname : isNameChar c = false) (hbackslash : c ≠ '\\')
    (hparen : c ≠ '(') (rest : Text) : EndsPart (c :: rest) :=
  ⟨endsName_cons hname hbackslash rest, fun h => hparen (Option.some.inj h)⟩

theorem Part.endsPart (p : Part) (rest : Text) : EndsPart (p.text ++ rest) := by
  cases p with
  | className | id | attr | attrValue | pseudoClass | pseudoElement | functional =>
    exact endsPart_cons (by decide) (by decide) (by decide) _

theorem Combinator.endsPart (k : Combinator) (rest : Text) : EndsPart (k.text ++ rest) := by
  cases k with
  | descendant | child | next | subsequent =>
    exact endsPart_cons (by decide) (by decide) (by decide) _

/-- Combinators are left out. -/
theorem Combinator.simples_append (k : Combinator) (rest : Text) :
    simples (k.text ++ rest) = simples rest := by
  have hspace : ∀ t : Text, simples (' ' :: t) = simples t :=
    simples_skip (by decide) (by decide)
  cases k with
  | descendant => exact hspace rest
  | child | next | subsequent =>
    exact (hspace _).trans ((simples_skip (by decide) (by decide) _).trans (hspace rest))

mutual

/-- A part is read up to its end. -/
theorem Part.simples_append : ∀ (p : Part) {rest : Text}, EndsPart rest →
    simples (p.text ++ rest) = p.simpleSelectors ++ simples rest
  | .className n, rest, hrest => by
    have h := simples_className (n.text ++ rest)
    rw [n.readName_append hrest.1, n.consNamed_text] at h
    exact h
  | .id n, rest, hrest => by
    have h := simples_id (n.text ++ rest)
    rw [n.readName_append hrest.1, n.consNamed_text] at h
    exact h
  | .attr n, rest, _ => simples_brackets n.closed_brackets rest
  | .attrValue n v, rest, _ => simples_brackets (n.closed_brackets.append v.closed) rest
  | .pseudoClass n, rest, hrest => by
    have hread : readName (spanColon (n.text ++ rest)).2 = (n.text, rest) := by
      rw [n.spanColon_append, n.readName_append hrest.1]
    have h := simples_colon hread hrest.2
    rw [take_append_left] at h
    exact h
  | .pseudoElement n, rest, hrest => by
    have hread : readName (spanColon (':' :: n.text ++ rest)).2 = (n.text, rest) :=
      n.readName_append hrest.1
    have h := simples_colon hread hrest.2
    rw [take_append_left] at h
    exact h
  | .functional n hname g, rest, _ => by
    rw [Part.text, simples_functional hname g.closed, alternatives_text, g.flatMap_simples,
      Part.simpleSelectors, Part.text]
    rfl

theorem Compound.simples_append : ∀ (c : Compound) {rest : Text}, EndsPart rest →
    simples (c.text ++ rest) = c.simpleSelectors ++ simples rest
  | .universal, rest, _ => simples_skip (by decide) (by decide) rest
  | .tag n, rest, hrest => simples_tag n.ne_nil (fun c hc => (n.isName c hc).1) hrest.1
  | .part p, rest, hrest => p.simples_append hrest
  | .more c p, rest, hrest => by
    rw [Compound.text, List.append_assoc, c.simples_append (p.endsPart rest),
      p.simples_append hrest, Compound.simpleSelectors, List.append_assoc]

theorem Complex.simples_text : ∀ s : Complex, simples s.text = s.simpleSelectors
  | .single c => by
    have h := c.simples_append endsPart_nil
    rw [List.append_nil, simples_nil, List.append_nil] at h
    exact h
  | .combined c k rest => by
    rw [Complex.text, c.simples_append (k.endsPart rest.text), k.simples_append,
      rest.simples_text, Complex.simpleSelectors]

theorem Group.flatMap_simples : ∀ g : Group,
    (g.members.map Complex.text).flatMap simples = g.simpleSelectors
  | .single s => by
    rw [Group.members, List.map_singleton, List.flatMap_singleton, s.simples_text,
      Group.simpleSelectors]
  | .cons s rest => by
    rw [Group.members, List.map_cons, List.flatMap_cons, s.simples_text, rest.flatMap_simples,
      Group.simpleSelectors]

end

/-! ## All three -/

/-- **Reading selectors undoes writing them.**  Complex selectors that are written with commas
between them are the alternatives of their group, a complex selector is cut into its compound
selectors, and its simple selectors are read in their order, to any depth of nesting. -/
theorem reads_written (ss : List Complex) (s : Complex) :
    alternatives (Text.joinWith ", ".toList (ss.map Complex.text)) = ss.map Complex.text ∧
      compounds s.text = s.compoundSelectors.map Compound.text ∧
        simples s.text = s.simpleSelectors :=
  ⟨alternatives_joinWith ss, compounds_text s, s.simples_text⟩

end CssTrim.Selector
