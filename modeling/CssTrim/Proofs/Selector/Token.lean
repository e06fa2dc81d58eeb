import CssTrim.Proofs.Selector.Name
import CssTrim.Proofs.Selector.Parse

/-!
# What is taken for a simple selector

The reader of simple selectors takes one simple selector from a text and goes on
behind it.  There are three groups.

* Bracket groups.  `spanGroup_step` says what their scanner does with one character.
  A group is the same whatever follows it, by `spanGroup_part`.
* `Takes front found rest`: in front of `rest` the text `front` is taken at once and
  read as `found`.  Every text starts in this way, by `exists_takes`.
* What is taken.  It is read as it says, by `Takes.simples_append`, it does not matter
  how much of `rest` there is, by `Takes.mono`, and it is read differently if it is
  cut, by `Takes.clip`.
-/

namespace CssTrim.Selector

/-! ## Bracket groups -/

section Group

variable (opening closing : Char)

theorem spanGroup_nil (depth : Nat) (quote : Option Char) :
    spanGroup opening closing depth quote [] = ([], []) := by rw [spanGroup]

/-- What the scanner of a group does with a character: it ends the group, or goes on behind the
character, or behind the next one. -/
theorem spanGroup_step (depth : Nat) (quote : Option Char) (c : Char) :
    (c = closing ∧ ∀ t, spanGroup opening closing depth quote (c :: t) = ([c], t)) ∨
      (∃ depth' quote', ∀ t, spanGroup opening closing depth quote (c :: t) =
        (spanGroup opening closing depth' quote' t).map (c :: ·) id) ∨
      ∀ t, spanGroup opening closing depth quote (c :: t) =
        (spanGroup opening closing depth quote (t.drop 1)).map (fun w => c :: (t.take 1 ++ w)) id := by
  cases quote with
  | none =>
    simp only [spanGroup_cons]
    by_cases hquote : Text.isQuote c
    · exact .inr (.inl ⟨depth, some c, fun t => if_pos hquote⟩)
    · by_cases hopening : c = opening
      · refine .inr (.inl ⟨depth + 1, none, fun t => ?_⟩)
        rw [if_neg hquote, if_pos hopening]
      · by_cases hclosing : c = closing
        · cases depth with
          | zero =>
            refine .inl ⟨hclosing, fun t => ?_⟩
            rw [if_neg hquote, if_neg hopening, if_pos hclosing]
          | succ outer =>
            refine .inr (.inl ⟨outer, none, fun t => ?_⟩)
            rw [if_neg hquote, if_neg hopening, if_pos hclosing]
        · refine .inr (.inl ⟨depth, none, fun t => ?_⟩)
          rw [if_neg hquote, if_neg hopening, if_neg hclosing]
  | some q =>
    by_cases hc : c = '\\'
    · refine .inr (.inr fun t => ?_)
      cases t with
      | nil =>
        simp [hc, spanGroup]
      | cons d t =>
        rw [hc, spanGroup]
        rfl
    · refine .inr (.inl ⟨depth, if c = q then none else some q, fun t => ?_⟩)
      rw [spanGroup]
      rintro d more h -
      exact hc h

/-- What holds of the end of a text, and is kept by each step of the scanner, holds of every text. -/
theorem spanGroup_induction {motive : Nat → Option Char → Text → Prop}
    (nil : ∀ depth quote, motive depth quote [])
    (close : ∀ {depth quote} (t), (∀ t, spanGroup opening closing depth quote (closing :: t) =
      ([closing], t)) → motive depth quote (closing :: t))
    (next : ∀ {depth quote depth' quote' c} (t), (∀ t,
      spanGroup opening closing depth quote (c :: t) =
        (spanGroup opening closing depth' quote' t).map (c :: ·) id) →
      motive depth' quote' t → motive depth quote (c :: t))
    (pair : ∀ {depth quote c} (t), (∀ t, spanGroup opening closing depth quote (c :: t) =
        (spanGroup opening closing depth quote (t.drop 1)).map
          (fun w => c :: (t.take 1 ++ w)) id) →
      motive depth quote (t.drop 1) → motive depth quote (c :: t))
    (depth : Nat) (quote : Option Char) (t : Text) : motive depth quote t := by
  induction hlength : t.length using Nat.strong_induction_on generalizing depth quote t with
  | _ length ih =>
    cases t with
    | nil => exact nil depth quote
    | cons c t =>
      rw [List.length_cons] at hlength
      obtain ⟨rfl, hstep⟩ | ⟨depth', quote', hstep⟩ | hstep :=
        spanGroup_step opening closing depth quote c
      · exact close t hstep
      · exact next t hstep (ih t.length (by omega) depth' quote' t rfl)
      · have hdrop : (t.drop 1).length < length := by
          rw [List.length_drop]
          omega
        exact pair t hstep (ih _ hdrop depth quote (t.drop 1) rfl)

/-- A group is read in the same way if less follows it. -/
theorem spanGroup_part (depth : Nat) (quote : Option Char) (t : Text) {p : Text}
    (hp : p <+: (spanGroup opening closing depth quote t).2) :
    spanGroup opening closing depth quote ((spanGroup opening closing depth quote t).1 ++ p) =
      ((spanGroup opening closing depth quote t).1, p) := by
  induction depth, quote, t using spanGroup_induction opening closing with
  | nil depth quote =>
    rw [spanGroup_nil] at hp ⊢
    rw [List.prefix_nil.1 hp]
    exact spanGroup_nil opening closing depth quote
  | close t hstep => rw [hstep t, List.singleton_append, hstep p]
  | next t hstep ih =>
    rw [hstep t] at hp ⊢
    rw [Prod.map_fst, List.cons_append, hstep, ih hp]
    rfl
  | @pair depth quote c t hstep ih =>
    rw [hstep t] at hp ⊢
    cases t with
    | nil =>
      rw [List.drop_nil, spanGroup_nil] at hp ⊢
      rw [List.prefix_nil.1 hp]
      exact hstep []
    | cons d t =>
      rw [Prod.map_fst, List.cons_append, List.append_assoc, hstep]
      exact congrArg (Prod.map (fun w => c :: d :: w) id) (ih hp)

/-- A group that is cut is not closed. -/
theorem spanGroup_clip (depth : Nat) (quote : Option Char) (t : Text) {x y : Text} (hne : y ≠ [])
    (hx : (spanGroup opening closing depth quote t).1 = x ++ y) :
    spanGroup opening closing depth quote x = (x, []) := by
  induction depth, quote, t using spanGroup_induction opening closing generalizing x with
  | nil depth quote =>
    rw [spanGroup_nil] at hx
    exact absurd (List.append_eq_nil_iff.1 hx.symm).2 hne
  | close t hstep =>
    cases x with
    | nil => exact spanGroup_nil _ _ _ _
    | cons e x =>
      rw [hstep t] at hx
      simp [hne] at hx
  | next t hstep ih =>
    cases x with
    | nil => exact spanGroup_nil _ _ _ _
    | cons e x =>
      rw [hstep t] at hx
      obtain ⟨rfl, hrest⟩ := List.cons.inj hx
      rw [hstep, ih hrest]
      rfl
  | @pair depth quote c t hstep ih =>
    cases x with
    | nil => exact spanGroup_nil _ _ _ _
    | cons e x =>
      rw [hstep t] at hx
      obtain ⟨rfl, hrest⟩ : c = e ∧ t.take 1 ++ _ = x ++ y := List.cons.inj hx
      rw [hstep]
      cases x with
      | nil => simp [spanGroup_nil]
      | cons e x =>
        cases t with
        | nil => simp [spanGroup_nil] at hrest
        | cons d t =>
          obtain ⟨rfl, hbehind⟩ : d = e ∧ _ = x ++ y := List.cons.inj hrest
          exact congrArg (Prod.map (fun w => c :: d :: w) id) (ih hbehind)

/-- A group that something follows ends with its bracket. -/
theorem getLast?_spanGroup (depth : Nat) (quote : Option Char) (t : Text)
    (hrest : (spanGroup opening closing depth quote t).2 ≠ []) :
    (spanGroup opening closing depth quote t).1.getLast? = some closing := by
  have hcons : ∀ {w : Text} (c : Char), w.getLast? = some closing →
      (c :: w).getLast? = some closing := by
    intro w c hw
    rw [List.getLast?_cons, hw]
    rfl
  induction depth, quote, t using spanGroup_induction opening closing with
  | nil depth quote => exact absurd (by rw [spanGroup_nil]) hrest
  | close t hstep =>
    rw [hstep]
    rfl
  | @next depth quote depth' quote' c t hstep ih =>
    rw [hstep] at hrest ⊢
    exact hcons c (ih hrest)
  | @pair depth quote c t hstep ih =>
    rw [hstep] at hrest ⊢
    cases t with
    | nil => exact hcons c (ih hrest)
    | cons d t => exact hcons c (hcons d (ih hrest))

end Group

/-! ## What is taken at once -/

/-- The signs in front of names, and what is made of the names. -/
inductive NameSign : Char → (Text → SimpleSelector) → Prop where
  | dot : NameSign '.' .className
  | hash : NameSign '#' .id

theorem NameSign.simples {sign : Char} {make : Text → SimpleSelector} (h : NameSign sign make)
    (rest : Text) :
    simples (sign :: rest) =
      consNamed make (readName rest).1 (Selector.simples (readName rest).2) := by
  cases h with
  | dot => exact simples_className rest
  | hash => exact simples_id rest

theorem NameSign.injective {sign : Char} {make : Text → SimpleSelector} (h : NameSign sign make)
    {m n : Text} (heq : make m = make n) : m = n := by
  cases h with
  | dot => exact SimpleSelector.className.inj heq
  | hash => exact SimpleSelector.id.inj heq

theorem consNamed_of_ne_nil (make : Text → SimpleSelector) {n : Text} (hne : n ≠ [])
    (tail : List SimpleSelector) : consNamed make n tail = make n :: tail := by
  rw [consNamed, List.isEmpty_eq_false_iff.2 hne]
  rfl

/-- The simple selectors in the argument of a pseudo-class. -/
def nested (name args : Text) : List SimpleSelector :=
  if groupPseudos.contains (Text.lower name) then
    (alternatives (argument args)).flatMap simples
  else []

/-- Whether the text `front` is taken at once in front of `rest`, and read as the simple selectors
`found`.  The space behind a code does not belong to the name of a class, an id or a tag if the code
is the end of the name. -/
inductive Takes : (front : Text) → (found : List SimpleSelector) → (rest : Text) → Prop where
  | named {sign : Char} {make : Text → SimpleSelector} {w n gap rest : Text}
      (hsign : NameSign sign make) (h : Spells w n gap rest) :
      Takes (sign :: w) (consNamed make n []) (gap ++ rest)
  | tag {w n gap rest : Text} (h : Spells w n gap rest) (hne : w ≠ []) :
      Takes w [.tag (Text.lower n)] (gap ++ rest)
  | attr {w rest : Text} (h : spanBrackets (w ++ rest) = (w, rest)) :
      Takes ('[' :: w) [.attr ('[' :: w)] rest
  | pseudo {colon w n gap rest : Text} (hcolon : Perhaps ':' colon (w ++ (gap ++ rest)))
      (h : Spells w n gap rest) (hparen : rest.head? ≠ some '(') :
      Takes (':' :: (colon ++ (w ++ gap))) [.pseudo (':' :: (colon ++ (w ++ gap)))] rest
  | functional {colon w n gap args rest : Text}
      (hcolon : Perhaps ':' colon (w ++ (gap ++ '(' :: (args ++ rest))))
      (h : Spells w n gap ('(' :: (args ++ rest)))
      (hargs : spanParens (args ++ rest) = (args, rest)) :
      Takes (':' :: (colon ++ (w ++ (gap ++ '(' :: args))))
        (.pseudo (':' :: (colon ++ (w ++ (gap ++ '(' :: args)))) :: nested n args) rest
  | sign {c : Char} {rest : Text} (hc : c ∉ ".#[:".toList)
      (hnone : readName (c :: rest) = ([], c :: rest)) : Takes [c] [] rest

theorem spanColon_append {colon rest : Text} (h : Perhaps ':' colon rest) :
    spanColon (colon ++ rest) = (colon, rest) := by
  rcases h with rfl | ⟨rfl, hrest⟩
  · rfl
  · rw [List.nil_append, spanColon]
    rintro more rfl
    exact hrest rfl

theorem exists_perhaps_colon (t : Text) :
    ∃ colon, t = colon ++ (spanColon t).2 ∧ Perhaps ':' colon (spanColon t).2 := by
  fun_cases spanColon t with
  | case1 rest => exact ⟨[':'], rfl, .inl rfl⟩
  | case2 t hcolon =>
    refine ⟨[], rfl, .inr ⟨rfl, fun hhead => ?_⟩⟩
    obtain ⟨more, rfl⟩ := List.head?_eq_some_iff.1 hhead
    exact hcolon more rfl

/-- What is taken behind a colon is one pseudo-class with what is nested in it. -/
theorem exists_takes_colon (t : Text) :
    ∃ front inner rest, ':' :: t = front ++ rest ∧ Takes front (.pseudo front :: inner) rest := by
  obtain ⟨colon, ht, hcolon⟩ := exists_perhaps_colon t
  obtain ⟨w, gap, hname, h⟩ := exists_spells (spanColon t).2
  generalize (spanColon t).2 = t' at *
  generalize readName t' = named at *
  obtain ⟨n, left⟩ := named
  subst hname ht
  by_cases hparen : left.head? = some '('
  · obtain ⟨args, rfl⟩ := List.head?_eq_some_iff.1 hparen
    have hargs := spanGroup_append '(' ')' 0 none args
    have hspan := spanGroup_part '(' ')' 0 none args List.prefix_rfl
    generalize spanGroup '(' ')' 0 none args = group at *
    obtain ⟨inner, rest⟩ := group
    subst hargs
    exact ⟨_, _, rest, by simp, .functional hcolon h hspan⟩
  · exact ⟨_, _, left, by simp, .pseudo hcolon h hparen⟩

/-- Where no name is read, nothing is taken for one. -/
theorem readName_eq_of_fst_eq_nil {t : Text} (h : (readName t).1 = []) : readName t = ([], t) := by
  obtain ⟨w, gap, ht, hspells⟩ := exists_spells t
  rw [h] at hspells
  cases hspells with
  | nil hends =>
    have hrest : t = (readName t).2 := ht
    rwa [← hrest] at hends

/-- Something is taken from every text that is not empty. -/
theorem exists_takes {t : Text} (hne : t ≠ []) :
    ∃ front found rest, t = front ++ rest ∧ Takes front found rest := by
  obtain ⟨c, t, rfl⟩ := List.exists_cons_of_ne_nil hne
  by_cases hsign : ∃ make, NameSign c make
  · obtain ⟨make, hsign⟩ := hsign
    obtain ⟨w, gap, ht, h⟩ := exists_spells t
    exact ⟨_, _, _, congrArg (c :: ·) ht, .named hsign h⟩
  by_cases hopen : c = '['
  · obtain rfl := hopen
    have ht := spanGroup_append '[' ']' 0 none t
    refine ⟨_, _, _, congrArg ('[' :: ·) ht.symm, .attr ?_⟩
    exact spanGroup_part '[' ']' 0 none t List.prefix_rfl
  by_cases hcolon : c = ':'
  · obtain rfl := hcolon
    obtain ⟨front, inner, rest, ht, h⟩ := exists_takes_colon t
    exact ⟨front, _, rest, ht, h⟩
  by_cases hname : (readName (c :: t)).1 = []
  · refine ⟨[c], [], t, rfl, .sign ?_ (readName_eq_of_fst_eq_nil hname)⟩
    simp only [String.reduceToList, List.mem_cons, List.not_mem_nil, or_false, not_or]
    refine ⟨?_, ?_, hopen, hcolon⟩
    · rintro rfl
      exact hsign ⟨_, .dot⟩
    · rintro rfl
      exact hsign ⟨_, .hash⟩
  · obtain ⟨w, gap, ht, h⟩ := exists_spells (c :: t)
    refine ⟨w, _, _, ht, .tag h ?_⟩
    exact mt h.name_eq_nil_iff.2 hname

/-! ## How it is read -/

theorem simples_of_name {c : Char} (hc : c ∉ ".#[:".toList) {rest n left : Text} (hne : n ≠ [])
    (hread : readName (c :: rest) = (n, left)) :
    simples (c :: rest) = .tag (Text.lower n) :: simples left := by
  have hsign : ∀ d ∈ ".#[:".toList, c ≠ d := fun d hd h => hc (h ▸ hd)
  rw [simples, if_neg (hsign '.' (by decide)), if_neg (hsign '#' (by decide)),
    if_neg (hsign '[' (by decide)), if_neg (hsign ':' (by decide)), hread, dif_neg hne]

theorem simples_of_no_name {c : Char} (hc : c ∉ ".#[:".toList) {rest : Text}
    (hnone : readName (c :: rest) = ([], c :: rest)) : simples (c :: rest) = simples rest := by
  have hsign : ∀ d ∈ ".#[:".toList, c ≠ d := fun d hd h => hc (h ▸ hd)
  rw [simples, if_neg (hsign '.' (by decide)), if_neg (hsign '#' (by decide)),
    if_neg (hsign '[' (by decide)), if_neg (hsign ':' (by decide)), hnone, dif_pos rfl]

theorem simples_space (rest : Text) : simples (' ' :: rest) = simples rest :=
  simples_skip (by decide) (by decide) rest

theorem Spells.simples_gap {w n gap rest : Text} (h : Spells w n gap rest) :
    simples (gap ++ rest) = simples rest := by
  rcases h.gap_eq with rfl | rfl
  · rfl
  · exact simples_space rest

/-- No sign stands at the start of a name. -/
theorem Spells.head_not_mem {c : Char} {w n gap rest : Text} (h : Spells (c :: w) n gap rest) :
    c ∉ ".#[:".toList := by
  have hsigns : ".#[:".toList.any isNameChar = false := by decide
  cases h with
  | plain hc => exact fun hmem => List.any_eq_false.1 hsigns c hmem hc
  | escaped | last | code => decide

namespace Takes

variable {front rest : Text} {found : List SimpleSelector}

theorem ne_nil (h : Takes front found rest) : front ≠ [] := by
  cases h with
  | named | attr | pseudo | functional | sign => exact List.cons_ne_nil _ _
  | tag _ hne => exact hne

/-- What is taken is read as it says. -/
theorem simples_append (h : Takes front found rest) :
    simples (front ++ rest) = found ++ simples rest := by
  cases h with
  | @named sign make w n gap rest hsign h =>
    rw [List.cons_append, hsign.simples, h.readName_append, h.simples_gap]
    cases n with
    | nil => rfl
    | cons c n => rfl
  | @tag w n gap rest h hne =>
    obtain ⟨c, w, rfl⟩ := List.exists_cons_of_ne_nil hne
    have hread := h.readName_append
    rw [List.cons_append] at hread ⊢
    rw [simples_of_name h.head_not_mem (mt h.name_eq_nil_iff.1 hne) hread, h.simples_gap]
    rfl
  | @attr w rest h =>
    rw [List.cons_append, simples_attr, h]
    rfl
  | @pseudo colon w n gap rest hcolon h hparen =>
    have hread : readName (spanColon (colon ++ (w ++ (gap ++ rest)))).2 = (n, rest) := by
      rw [spanColon_append hcolon, h.readName_append]
    have htake := take_append_left (colon ++ (w ++ gap)) rest
    have hsimples := simples_colon hread hparen
    simp only [List.append_assoc, List.cons_append] at htake hsimples ⊢
    rw [hsimples, htake]
    rfl
  | @functional colon w n gap args rest hcolon h hargs =>
    have hread : readName (spanColon (colon ++ (w ++ (gap ++ '(' :: (args ++ rest))))).2 =
        (n, '(' :: (args ++ rest)) := by
      rw [spanColon_append hcolon, h.readName_append]
    have htake := take_append_left (colon ++ (w ++ gap)) ('(' :: (args ++ rest))
    have hsimples := simples_colon_paren hread
    rw [hargs] at hsimples
    simp only [List.append_assoc, List.cons_append, List.length_cons] at htake hsimples ⊢
    rw [hsimples, htake]
    simp [nested]
  | @sign c rest hc hnone => exact simples_of_no_name hc hnone

/-- The same is taken if less follows it. -/
theorem mono (h : Takes front found rest) {p : Text} (hp : p <+: rest) : Takes front found p := by
  cases h with
  | @named sign make w n gap rest hsign h =>
    obtain ⟨gap', p, rfl, hpart⟩ := h.exists_of_part hp
    exact .named hsign hpart
  | @tag w n gap rest h hne =>
    obtain ⟨gap', p, rfl, hpart⟩ := h.exists_of_part hp
    exact .tag hpart hne
  | @attr w rest h =>
    have hpart := spanGroup_part '[' ']' 0 none (w ++ rest) (p := p)
    rw [← spanBrackets, h] at hpart
    exact .attr (hpart hp)
  | @pseudo colon w n gap rest hcolon h hparen =>
    have hfront : w ++ (gap ++ p) <+: w ++ (gap ++ rest) :=
      (List.prefix_append_right_inj w).2 ((List.prefix_append_right_inj gap).2 hp)
    exact .pseudo (hcolon.mono hfront) (h.mono hp) fun hhead => hparen (mem_head?_of_part hp hhead)
  | @functional colon w n gap args rest hcolon h hargs =>
    have hbehind : '(' :: (args ++ p) <+: '(' :: (args ++ rest) :=
      (List.prefix_cons_inj '(').2 ((List.prefix_append_right_inj args).2 hp)
    have hfront : w ++ (gap ++ '(' :: (args ++ p)) <+: w ++ (gap ++ '(' :: (args ++ rest)) :=
      (List.prefix_append_right_inj w).2 ((List.prefix_append_right_inj gap).2 hbehind)
    have hpart := spanGroup_part '(' ')' 0 none (args ++ rest) (p := p)
    rw [← spanParens, hargs] at hpart
    exact .functional (hcolon.mono hfront) (h.mono hbehind) (hpart hp)
  | @sign c rest hc hnone =>
    exact .sign hc (readName_of_part hnone ((List.prefix_cons_inj c).2 hp))

/-- In front of a backslash with a character behind it nothing ends with a backslash. -/
theorem getLast?_ne (h : Takes front found rest) {c : Char} {more : Text}
    (hrest : rest = '\\' :: c :: more) : front.getLast? ≠ some '\\' := by
  have hescape : ∀ {t : Text}, t = '\\' :: c :: more → readName t ≠ ([], t) := by
    intro t ht
    rw [ht]
    exact readName_escape_ne c more
  have hname : ∀ {w n gap rest : Text}, Spells w n gap rest → gap ++ rest ≠ '\\' :: c :: more := by
    intro w n gap rest h hbehind
    rcases h.gap_eq with rfl | rfl
    · exact hescape hbehind h.ends
    · simp at hbehind
  have hgroup : ∀ {closing : Char} {w : Text} (t : Text), w.getLast? = some closing →
      closing ≠ '\\' → (t ++ w).getLast? ≠ some '\\' := by
    intro closing w t hlast hne heq
    rw [List.getLast?_append, hlast] at heq
    exact hne (Option.some.inj heq)
  cases h with
  | named _ h => exact absurd hrest (hname h)
  | tag h _ => exact absurd hrest (hname h)
  | @attr w rest h =>
    have hlast := getLast?_spanGroup '[' ']' 0 none (w ++ rest)
    rw [← spanBrackets, h] at hlast
    exact hgroup ['['] (hlast (by simp [hrest])) (by decide)
  | pseudo _ h _ => exact absurd h.ends (hescape hrest)
  | @functional colon w n gap args rest _ _ hargs =>
    have hlast := getLast?_spanGroup '(' ')' 0 none (args ++ rest)
    rw [← spanParens, hargs] at hlast
    have hfront : ':' :: (colon ++ (w ++ (gap ++ '(' :: args))) =
        (':' :: (colon ++ (w ++ (gap ++ ['('])))) ++ args := by simp
    rw [hfront]
    exact hgroup _ (hlast (by simp [hrest])) (by decide)
  | @sign d rest _ hnone =>
    intro heq
    obtain rfl : d = '\\' := by simpa using heq
    rw [hrest] at hnone
    exact readName_escape_ne '\\' _ hnone

/-- What is taken is read differently if it is cut, unless nothing but a backslash is left of the
name in it. -/
theorem clip (h : Takes front found rest) {x y : Text} {c : Char} (hfront : front = x ++ c :: y)
    (hne : x ≠ []) (hname : isNameChar c = false) (hc : c ≠ '\\') :
    (∃ k ks k' ks', found = k :: ks ∧ simples x = k' :: ks' ∧ k' ≠ k) ∨ x = ['\\'] ∨
      ∃ sign make, NameSign sign make ∧ x = [sign, '\\'] := by
  obtain ⟨e, x, rfl⟩ := List.exists_cons_of_ne_nil hne
  -- What is left of a pseudo-class is shorter, however it is read.
  have hpseudo : ∀ inner, e = ':' → found = .pseudo front :: inner →
      ∃ k ks k' ks', found = k :: ks ∧ simples (e :: x) = k' :: ks' ∧ k' ≠ k := by
    rintro inner rfl hfound
    obtain ⟨left, inner', rest', hx, hleft⟩ := exists_takes_colon x
    have hread := hleft.simples_append
    rw [← hx] at hread
    refine ⟨_, _, _, _, hfound, hread, fun heq => ?_⟩
    have hlength := congrArg List.length (SimpleSelector.pseudo.inj heq)
    have hshorter := congrArg List.length hx
    rw [hfront] at hlength
    simp only [List.length_append, List.length_cons] at hlength hshorter
    omega
  cases h with
  | @named sign make w n gap rest hsign h =>
    obtain ⟨rfl, hw⟩ : sign = e ∧ w = x ++ c :: y := List.cons.inj hfront
    obtain ⟨-, hlength, hnil⟩ := h.clip hw hname hc
    by_cases hread : (readName x).1 = []
    · exact .inr (.inr ⟨sign, make, hsign, by rw [hnil hread]⟩)
    · have hwhole : n ≠ [] := List.length_pos_iff.1 (by omega)
      have hsimples := hsign.simples x
      rw [consNamed_of_ne_nil make hread] at hsimples
      refine .inl ⟨_, _, _, _, consNamed_of_ne_nil make hwhole [], hsimples, fun heq => ?_⟩
      rw [hsign.injective heq] at hlength
      exact Nat.lt_irrefl _ hlength
  | @tag w n gap rest h _ =>
    subst hfront
    obtain ⟨hpart, hlength, hnil⟩ := h.clip rfl hname hc
    by_cases hread : (readName (e :: x)).1 = []
    · exact .inr (.inl (hnil hread))
    · have hsimples := simples_of_name h.head_not_mem hread rfl
      refine .inl ⟨_, _, _, _, rfl, hsimples, fun heq => ?_⟩
      have hlower := congrArg List.length (SimpleSelector.tag.inj heq)
      have hcount := hpart.sublist.count_le 'İ'
      rw [Text.length_lower, Text.length_lower] at hlower
      omega
  | @attr w rest h =>
    obtain ⟨rfl, hw⟩ : '[' = e ∧ w = x ++ c :: y := List.cons.inj hfront
    have hclip := spanGroup_clip '[' ']' 0 none (w ++ rest) (x := x) (List.cons_ne_nil c y)
    rw [← spanBrackets, h] at hclip
    have hsimples := simples_attr x
    rw [hclip hw] at hsimples
    refine .inl ⟨_, _, _, _, rfl, hsimples, fun heq => ?_⟩
    have hlength := congrArg List.length (SimpleSelector.attr.inj heq)
    rw [hw] at hlength
    simp only [List.length_append, List.length_cons] at hlength
    omega
  | pseudo => exact .inl (hpseudo _ (List.cons.inj hfront).1.symm rfl)
  | functional => exact .inl (hpseudo _ (List.cons.inj hfront).1.symm rfl)
  | @sign d rest hd hnone => simp at hfront

end Takes

end CssTrim.Selector
