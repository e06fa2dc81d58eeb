import CssTrim.Value
import CssTrim.Proofs.Text.Quoted

/-!
# Telling printed values apart

The printed form of a value does not say where it ends, but what follows it does:
a comma, a bracket, a zero character.  In front of anything but a digit, a printed
value can be read off the whole.  There are four groups.

* Values without a binary fraction.  `Exact` holds of the values that are printed
  without rounding, and its induction principle is the one on nested values.
* Kinds.  The first character of a printed value says what kind of value it is.
* Items and fields.  `bracketed_append_inj` is about anything that is printed in
  brackets with commas between.
* Values.  `Exact.readsOff_render` is the induction.
-/

namespace CssTrim.Value

/-! ## Values without a binary fraction -/

/-- The values that no binary fraction occurs in. -/
inductive Exact : Value → Prop where
  | null : Exact null
  | bool (b : Bool) : Exact (bool b)
  | int (n : Int) : Exact (int n)
  | text (t : Text) : Exact (text t)
  | list {items : List Value} (h : ∀ v ∈ items, Exact v) : Exact (list items)
  | object {fields : List (Text × Value)} (h : ∀ f ∈ fields, Exact f.2) : Exact (object fields)

/-! ## Kinds -/

/-- The kinds of values. -/
inductive Kind where
  | null
  | bool
  | number
  | text
  | list
  | object
deriving DecidableEq

/-- The kind of a value. -/
def kind : Value → Kind
  | null => .null
  | bool _ => .bool
  | int _ | float _ => .number
  | text _ => .text
  | list _ => .list
  | object _ => .object

/-- The kind of the values whose printed form starts with this character, if there are any. -/
def Kind.ofChar? (c : Char) : Option Kind :=
  if c = 'N' then some .null
  else if c = 'T' ∨ c = 'F' then some .bool
  else if c.isDigit ∨ c = '-' then some .number
  else if c = '\x27' ∨ c = '\x22' then some .text
  else if c = '[' then some .list
  else if c = '\x7b' then some .object
  else none

theorem Kind.ofChar?_of_isDigit {c : Char} (h : c.isDigit = true ∨ c = '-') :
    Kind.ofChar? c = some .number := by
  have hne : ∀ d : Char, (d.isDigit || d == '-') = false → c ≠ d := by
    rintro d hd rfl
    rcases h with h | h <;> simp [h] at hd
  rw [ofChar?, if_neg (hne _ rfl), if_neg (not_or.2 ⟨hne _ rfl, hne _ rfl⟩), if_pos h]

theorem Kind.ofChar?_quoteFor (t : Text) : Kind.ofChar? (Text.quoteFor t) = some .text := by
  rcases Text.quoteFor_eq_or t with h | h <;> rw [h] <;> rfl

/-- A printed value starts with a character of its kind. -/
theorem Exact.exists_render_eq {v : Value} (hv : Exact v) :
    ∃ c rest, v.render = c :: rest ∧ Kind.ofChar? c = some v.kind := by
  cases hv with
  | null => exact ⟨_, _, rfl, rfl⟩
  | bool b => cases b <;> exact ⟨_, _, rfl, rfl⟩
  | int n =>
    obtain ⟨c, rest, hprint, hc⟩ := Text.exists_ofInt_eq n
    exact ⟨c, rest, hprint, Kind.ofChar?_of_isDigit hc⟩
  | text t => exact ⟨_, _, rfl, Kind.ofChar?_quoteFor t⟩
  | list => exact ⟨_, _, rfl, rfl⟩
  | object => exact ⟨_, _, rfl, rfl⟩

theorem Exact.kind_eq {v w : Value} (hv : Exact v) (hw : Exact w) {r s : Text}
    (h : v.render ++ r = w.render ++ s) : v.kind = w.kind := by
  obtain ⟨c, rest, hprint, hc⟩ := hv.exists_render_eq
  obtain ⟨d, rest', hprint', hd⟩ := hw.exists_render_eq
  rw [hprint, hprint'] at h
  rw [(List.cons.inj h).1] at hc
  exact Option.some.inj (hc.symm.trans hd)

/-! ## Items and fields -/

/-- The printed form of a field. -/
def renderField (f : Text × Value) : Text := Text.quoted f.1 ++ ':' :: ' ' :: render f.2

theorem renderItems_cons (v : Value) (items : List Value) :
    renderItems (v :: items) = render v ++ items.flatMap fun w => ',' :: ' ' :: render w := by
  induction items generalizing v with
  | nil => rw [renderItems, List.flatMap_nil, List.append_nil]
  | cons w items ih => rw [renderItems, ih, List.flatMap_cons]; rfl

theorem renderFields_cons (f : Text × Value) (fields : List (Text × Value)) :
    renderFields (f :: fields) =
      renderField f ++ fields.flatMap fun g => ',' :: ' ' :: renderField g := by
  induction fields generalizing f with
  | nil => rw [renderFields, List.flatMap_nil, List.append_nil, renderField]
  | cons g fields ih =>
    rw [renderFields, ih, List.flatMap_cons]
    simp [renderField]

/-- What is printed for `x` can be told apart from what is printed for any value of a class, when
no digit follows. -/
def ReadsOff {α : Type} (print : α → Text) (among : α → Prop) (x : α) : Prop :=
  ∀ ⦃y⦄, among y → ∀ ⦃r s : Text⦄, r.takeWhile Char.isDigit = [] → s.takeWhile Char.isDigit = [] →
    print x ++ r = print y ++ s → x = y ∧ r = s

section Printed

variable {α : Type} {print : α → Text} {among : α → Prop} {close : Char} {xs ys : List α}
  {r s : Text}

theorem takeWhile_isDigit_flatMap (xs : List α) (hclose : close.isDigit = false) :
    (xs.flatMap (fun x => ',' :: ' ' :: print x) ++ close :: r).takeWhile Char.isDigit = [] := by
  cases xs with
  | nil => exact List.takeWhile_cons_of_neg (by simp [hclose])
  | cons x xs => rfl

/-- What stands behind the first of several things in brackets can be read off the whole. -/
theorem flatMap_append_inj (hxs : ∀ x ∈ xs, ReadsOff print among x) (hys : ∀ y ∈ ys, among y)
    (hclose : close.isDigit = false) (hcomma : close ≠ ',')
    (h : xs.flatMap (fun x => ',' :: ' ' :: print x) ++ close :: r =
      ys.flatMap (fun y => ',' :: ' ' :: print y) ++ close :: s) : xs = ys ∧ r = s := by
  induction xs generalizing ys with
  | nil =>
    cases ys with
    | nil => exact ⟨rfl, (List.cons.inj h).2⟩
    | cons y ys => exact absurd (List.cons.inj h).1 hcomma
  | cons x xs ih =>
    cases ys with
    | nil => exact absurd (List.cons.inj h).1.symm hcomma
    | cons y ys =>
      rw [List.forall_mem_cons] at hxs hys
      rw [List.flatMap_cons, List.flatMap_cons, List.append_assoc, List.append_assoc] at h
      have hprint := (List.cons.inj (List.cons.inj h).2).2
      obtain ⟨rfl, hrest⟩ := hxs.1 hys.1 (takeWhile_isDigit_flatMap xs hclose)
        (takeWhile_isDigit_flatMap ys hclose) hprint
      obtain ⟨rfl, hbehind⟩ := ih hxs.2 hys.2 hrest
      exact ⟨rfl, hbehind⟩

/-- Things in brackets can be read off the whole, when none of them starts like the bracket. -/
theorem bracketed_append_inj {printAll : List α → Text} (hnil : printAll [] = [])
    (hcons : ∀ x xs, printAll (x :: xs) = print x ++ xs.flatMap fun y => ',' :: ' ' :: print y)
    (hxs : ∀ x ∈ xs, among x) (hread : ∀ x ∈ xs, ReadsOff print among x) (hys : ∀ y ∈ ys, among y)
    (hstart : ∀ y, among y → ∃ c rest, print y = c :: rest ∧ c ≠ close)
    (hclose : close.isDigit = false) (hcomma : close ≠ ',')
    (h : printAll xs ++ close :: r = printAll ys ++ close :: s) : xs = ys ∧ r = s := by
  have hne : ∀ y ys t u, among y → printAll (y :: ys) ++ t ≠ close :: u := by
    intro y ys t u hy heq
    obtain ⟨c, rest, hprint, hc⟩ := hstart y hy
    rw [hcons, hprint, List.append_assoc, List.cons_append, List.cons.injEq] at heq
    exact hc heq.1
  cases xs with
  | nil =>
    rw [hnil] at h
    cases ys with
    | nil =>
      rw [hnil] at h
      exact ⟨rfl, (List.cons.inj h).2⟩
    | cons y ys => exact absurd h.symm (hne y ys _ _ (hys y List.mem_cons_self))
  | cons x xs =>
    cases ys with
    | nil =>
      rw [hnil] at h
      exact absurd h (hne x xs _ _ (hxs x List.mem_cons_self))
    | cons y ys =>
      -- with a comma in front, the first of them is like the others
      refine flatMap_append_inj hread hys hclose hcomma ?_
      rw [hcons, hcons] at h
      exact congrArg (',' :: ' ' :: ·) h

end Printed

/-- The printed form of a field can be read off when that of its value can. -/
theorem readsOff_renderField {f : Text × Value} (h : ReadsOff render Exact f.2) :
    ReadsOff renderField (fun g => Exact g.2) f := by
  intro g hg r s hr hs heq
  simp only [renderField, List.append_assoc, List.cons_append] at heq
  obtain ⟨hkey, hrest⟩ := Text.quoted_append_inj heq
  have hvalue := (List.cons.inj (List.cons.inj hrest).2).2
  obtain ⟨hsame, hbehind⟩ := h hg hr hs hvalue
  exact ⟨Prod.ext hkey hsame, hbehind⟩

theorem Exact.exists_render_ne_bracket {v : Value} (hv : Exact v) :
    ∃ c rest, v.render = c :: rest ∧ c ≠ ']' := by
  obtain ⟨c, rest, hprint, hc⟩ := hv.exists_render_eq
  refine ⟨c, rest, hprint, ?_⟩
  rintro rfl
  have hnone : Kind.ofChar? ']' = none := rfl
  rw [hnone] at hc
  exact absurd hc (by simp)

theorem exists_renderField_ne_brace (f : Text × Value) :
    ∃ c rest, renderField f = c :: rest ∧ c ≠ '\x7d' := by
  refine ⟨Text.quoteFor f.1, _, rfl, ?_⟩
  rcases Text.quoteFor_eq_or f.1 with hquote | hquote <;> rw [hquote] <;> decide

theorem render_list_append_inj {items items' : List Value} {r s : Text}
    (hitems : ∀ v ∈ items, Exact v) (hread : ∀ v ∈ items, ReadsOff render Exact v)
    (hitems' : ∀ v ∈ items', Exact v) (h : (list items).render ++ r = (list items').render ++ s) :
    items = items' ∧ r = s := by
  simp only [render, List.cons_append, List.append_assoc, List.nil_append] at h
  exact bracketed_append_inj rfl renderItems_cons hitems hread hitems'
    (fun _ hv => hv.exists_render_ne_bracket) rfl (by decide) (List.cons.inj h).2

theorem render_object_append_inj {fields fields' : List (Text × Value)} {r s : Text}
    (hfields : ∀ f ∈ fields, Exact f.2) (hread : ∀ f ∈ fields, ReadsOff render Exact f.2)
    (hfields' : ∀ f ∈ fields', Exact f.2)
    (h : (object fields).render ++ r = (object fields').render ++ s) :
    fields = fields' ∧ r = s := by
  simp only [render, List.cons_append, List.append_assoc, List.nil_append] at h
  exact bracketed_append_inj rfl renderFields_cons hfields
    (fun f hf => readsOff_renderField (hread f hf)) hfields'
    (fun f _ => exists_renderField_ne_brace f) rfl (by decide) (List.cons.inj h).2

theorem render_bool_append_inj {b b' : Bool} {r s : Text}
    (h : (bool b).render ++ r = (bool b').render ++ s) : b = b' ∧ r = s := by
  cases b with
  | true =>
    cases b' with
    | true => exact ⟨rfl, List.append_cancel_left h⟩
    | false => exact absurd (List.cons.inj h).1 (by decide)
  | false =>
    cases b' with
    | true => exact absurd (List.cons.inj h).1 (by decide)
    | false => exact ⟨rfl, List.append_cancel_left h⟩

/-! ## Values -/

/-- **Printed values.**  A printed value in front of anything but a digit can be read off the
whole. -/
theorem Exact.readsOff_render {v : Value} (hv : Exact v) : ReadsOff render Exact v := by
  -- in every case the first character leaves only one constructor for the other value
  induction hv with
  | null =>
    intro w hw r s _ _ h
    have hkind := Exact.null.kind_eq hw h
    cases hw with
    | null => exact ⟨rfl, List.append_cancel_left h⟩
    | _ => exact Kind.noConfusion hkind
  | bool b =>
    intro w hw r s _ _ h
    have hkind := (Exact.bool b).kind_eq hw h
    cases hw with
    | bool b' => exact (render_bool_append_inj h).imp_left (congrArg Value.bool)
    | _ => exact Kind.noConfusion hkind
  | int n =>
    intro w hw r s hr hs h
    have hkind := (Exact.int n).kind_eq hw h
    cases hw with
    | int n' => exact (Text.ofInt_append_inj hr hs h).imp_left (congrArg Value.int)
    | _ => exact Kind.noConfusion hkind
  | text t =>
    intro w hw r s _ _ h
    have hkind := (Exact.text t).kind_eq hw h
    cases hw with
    | text t' => exact (Text.quoted_append_inj h).imp_left (congrArg Value.text)
    | _ => exact Kind.noConfusion hkind
  | list hitems ih =>
    intro w hw r s _ _ h
    have hkind := (Exact.list hitems).kind_eq hw h
    cases hw with
    | list hitems' =>
      exact (render_list_append_inj hitems ih hitems' h).imp_left (congrArg Value.list)
    | _ => exact Kind.noConfusion hkind
  | object hfields ih =>
    intro w hw r s _ _ h
    have hkind := (Exact.object hfields).kind_eq hw h
    cases hw with
    | object hfields' =>
      exact (render_object_append_inj hfields ih hfields' h).imp_left (congrArg Value.object)
    | _ => exact Kind.noConfusion hkind

end CssTrim.Value
