import CssTrim.Cache.Key
import CssTrim.Proofs.Text.Utf8
import CssTrim.Proofs.Value

/-!
# Keys of different parts

The message behind a key says which parts it was made from, so different parts
have the same key only where two messages have the same digest.

* The message is the text of all parts in octets: `message_eq`.
* The zero character behind a part is no digit, so the parts can be read off one
  after another: `eq_of_message_eq`.
-/

namespace CssTrim.Cache.Key

/-- The text of the parts, with a zero character behind each. -/
def textOf (parts : List Value) : Text := parts.flatMap fun v => v.render ++ ['\x00']

theorem textOf_cons (v : Value) (parts : List Value) :
    textOf (v :: parts) = v.render ++ '\x00' :: textOf parts := by
  rw [textOf, List.flatMap_cons, ← textOf, List.append_assoc, List.singleton_append]

theorem octetsOf_eq (v : Value) : octetsOf v = Text.Utf8.encode (v.render ++ ['\x00']) := by
  rw [Text.Utf8.encode_append]
  rfl

theorem message_eq (parts : List Value) : message parts = Text.Utf8.encode (textOf parts) := by
  induction parts with
  | nil => rfl
  | cons v parts ih =>
    rw [message, List.flatMap_cons, ← message, ih, octetsOf_eq, ← Text.Utf8.encode_append,
      textOf_cons, List.append_assoc, List.singleton_append]

theorem textOf_cons_ne_nil (v : Value) (parts : List Value) : textOf (v :: parts) ≠ [] := by
  rw [textOf_cons]
  exact List.append_ne_nil_of_right_ne_nil _ (List.cons_ne_nil _ _)

theorem eq_of_textOf_eq {ps qs : List Value} (hps : ∀ v ∈ ps, v.Exact) (hqs : ∀ v ∈ qs, v.Exact)
    (h : textOf ps = textOf qs) : ps = qs := by
  induction ps generalizing qs with
  | nil =>
    cases qs with
    | nil => rfl
    | cons w qs => exact absurd h.symm (textOf_cons_ne_nil w qs)
  | cons v ps ih =>
    cases qs with
    | nil => exact absurd h (textOf_cons_ne_nil v ps)
    | cons w qs =>
      rw [List.forall_mem_cons] at hps hqs
      rw [textOf_cons, textOf_cons] at h
      obtain ⟨rfl, hrest⟩ := hps.1.readsOff_render hqs.1 rfl rfl h
      rw [ih hps.2 hqs.2 (List.cons.inj hrest).2]

/-- **The message says what the parts are.**  When no binary fraction occurs in them, parts with the
same message are the same. -/
theorem eq_of_message_eq {ps qs : List Value} (hps : ∀ v ∈ ps, v.Exact) (hqs : ∀ v ∈ qs, v.Exact)
    (h : message ps = message qs) : ps = qs := by
  rw [message_eq, message_eq] at h
  exact eq_of_textOf_eq hps hqs (Text.Utf8.encode_injective h)

/-- An object has the same message whether a field was written over or has had its value from the
start. -/
theorem eq_of_message_eq_written_over :
    (∀ v ∈ [Value.object (Value.setField ['a'] (.int (-1)) [(['a'], .null)])], v.Exact) ∧
      (∀ v ∈ [Value.object [(['a'], .int (-1))]], v.Exact) ∧
      message [.object (Value.setField ['a'] (.int (-1)) [(['a'], .null)])] =
        message [.object [(['a'], .int (-1))]] ∧
      [Value.object (Value.setField ['a'] (.int (-1)) [(['a'], .null)])] =
        [Value.object [(['a'], .int (-1))]] := by
  have hexact : ∀ v ∈ [Value.object [(['a'], .int (-1))]], v.Exact := by
    intro v hv
    rw [List.mem_singleton] at hv
    subst hv
    refine .object fun f hf => ?_
    rw [List.mem_singleton] at hf
    subst hf
    exact .int (-1)
  exact ⟨hexact, hexact, rfl, eq_of_message_eq hexact hexact rfl⟩

end CssTrim.Cache.Key
