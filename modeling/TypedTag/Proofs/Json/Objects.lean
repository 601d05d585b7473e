import TypedTag.Proofs.Json.Members
import TypedTag.Proofs.Outcome

/-! # Texts that are objects

An object is read back if its members are. Nothing but a brace makes a value an object: no number,
string or literal name is read as one. So in a text that is read as an object, whoever asks for the
members finds the same ones.
-/

namespace TypedTag.Json

variable {α : Type}

def NoObject (x : Except Error (Value × List Char)) : Prop :=
  ∀ ms rest, x ≠ .ok (.object ms, rest)

namespace NoObject

theorem throw (e : Error) : NoObject (throw e) := by
  rintro ms rest ⟨⟩

theorem float (x : Float) (rest : List Char) : NoObject (pure (.float x, rest)) := by
  rintro ms rest ⟨⟩

theorem bind {x : Except Error α} {f : α → Except Error (Value × List Char)}
    (h : ∀ a, NoObject (f a)) : NoObject (x >>= f) := by
  intro ms rest hx
  obtain ⟨a, -, ha⟩ := bind_eq_ok_iff.mp hx
  exact h a ms rest ha

theorem check {c : Prop} [Decidable c] {x : Except Error Unit}
    {next : Unit → Except Error (Value × List Char)} (h : ∀ u, NoObject (next u)) :
    NoObject (if c then x >>= next else next ()) := by
  split
  · exact bind h
  · exact h ()

theorem wholeNumber (negative : Bool) (n : Nat) (rest : List Char) :
    NoObject (pure (wholeNumber negative n, rest)) := by
  unfold Json.wholeNumber
  split_ifs <;> rintro ms rest ⟨⟩

theorem exponentPart (negative : Bool) (significand : Nat) (exponent : Int) (text : List Char) :
    NoObject (exponentPart negative significand exponent text) := by
  unfold Json.exponentPart
  -- The sign and the digits are taken apart, then there has to be a digit.
  split
  split
  refine check fun _ => ?_
  dsimp only
  split
  · exact bind fun _ => float _ _
  · split
    · exact throw _
    · exact float _ _

theorem number (negative : Bool) (text : List Char) : NoObject (number negative text) := by
  unfold Json.number
  split
  split
  · exact throw _
  · exact throw _
  · split
    extract_lets exponent
    split
    · split
      refine check fun _ => ?_
      dsimp only
      split
      · exact exponentPart _ _ _ _
      · exact exponentPart _ _ _ _
      · exact bind fun _ => float _ _
    · exact exponentPart _ _ _ _
    · exact exponentPart _ _ _ _
    · split
      · exact wholeNumber _ _ _
      · exact bind fun _ => float _ _

theorem scalar (c : Char) (text : List Char) : NoObject (Reader.scalar c text) := by
  unfold Reader.scalar
  split_ifs
  · exact bind fun _ => by rintro ms rest ⟨⟩
  · exact bind fun _ => by rintro ms rest ⟨⟩
  · exact bind fun _ => by rintro ms rest ⟨⟩
  · exact bind fun _ => by rintro ms rest ⟨⟩
  · exact number _ _
  · exact number _ _
  · exact throw _

end NoObject

namespace Reader

variable {β : Type} {reader : Reader α} {text : String} {a : α} {depth : Nat}
  {ms : List (String × Value)} {cs rest : List Char}

theorem bind_ok_iff {x : Reader α} {f : α → Reader β} {result : β × List Char} :
    (x >>= f) cs = .ok result ↔ ∃ a rest, x cs = .ok (a, rest) ∧ f a rest = .ok result := by
  change x cs >>= (fun p => f p.1 p.2) = _ ↔ _
  rw [bind_eq_ok_iff, Prod.exists]

theorem map_ok_iff {x : Reader α} {f : α → β} {b : β} :
    (f <$> x) cs = .ok (b, rest) ↔ ∃ a, x cs = .ok (a, rest) ∧ f a = b := by
  change x cs >>= (fun p => pure (f p.1, p.2)) = _ ↔ _
  simp [bind_eq_ok_iff, pure, Except.pure]

/-- A value is an object only if a brace is the first character behind the blanks. -/
theorem members_of_value_eq_object (h : value (depth + 1) cs = .ok (.object ms, rest)) :
    ∃ cs', peek cs = .ok (some '\x7b', cs') ∧ members (value depth) cs' = .ok (ms, rest) := by
  rw [value.eq_def, bind_ok_iff] at h
  obtain ⟨c?, cs', hp, h⟩ := h
  refine ⟨cs', ?_⟩
  split at h
  · cases h
  · obtain ⟨items, -, hv⟩ := map_ok_iff.mp h
    cases hv
  · obtain ⟨ms', hm, hv⟩ := map_ok_iff.mp h
    cases hv
    exact ⟨hp, hm⟩
  · exact absurd h (NoObject.scalar _ _ _ _)

theorem readsBack_value_object (h : MembersReadBack (value depth) ms ms) :
    ReadsBack (value (depth + 1)) (.object ms) (.object ms) := by
  intro layout
  obtain ⟨cs, hp⟩ : ∃ cs, (Value.object ms).print layout = '\x7b' :: cs := by
    cases ms <;> exact ⟨_, rfl⟩
  refine ⟨⟨'\x7b', cs, hp, by decide, by decide⟩, fun rest hb => ?_⟩
  have hm := members_print h layout rest
  rw [hp] at hm ⊢
  rw [List.cons_append, value.eq_def, bind_of_ok (peek_blanks hb (by decide))]
  exact map_of_ok Value.object hm

theorem run_eq_ok_iff : reader.run text = .ok a ↔
    ∃ rest, reader text.toList = .ok (a, rest) ∧ ∃ rest', finish rest = .ok ((), rest') := by
  change Except.map Prod.fst ((do
    let a ← reader
    finish
    return a : Reader α) text.toList) = _ ↔ _
  simp only [map_eq_ok_iff, Prod.exists, bind_ok_iff]
  constructor
  · rintro ⟨_, _, ⟨b, rest, h, ⟨⟩, rest', hf, hb⟩, rfl⟩
    cases hb
    exact ⟨rest, h, _, hf⟩
  · rintro ⟨rest, h, rest', hf⟩
    exact ⟨a, rest', ⟨a, rest, h, (), rest', hf, rfl⟩, rfl⟩

theorem run_of_lift {x : Except Error α} (h : reader text.toList = (x : Reader α) rest)
    (hf : ∃ rest', finish rest = .ok ((), rest')) : reader.run text = x := by
  obtain ⟨rest', hf⟩ := hf
  change Except.map Prod.fst (reader text.toList >>= fun p => (do
    finish
    return p.1 : Reader α) p.2) = x
  rw [h]
  cases x with
  | error e => rfl
  | ok a =>
    change Except.map Prod.fst ((do
      finish
      return a : Reader α) rest) = .ok a
    rw [bind_of_ok hf]
    rfl

end Reader

end TypedTag.Json
