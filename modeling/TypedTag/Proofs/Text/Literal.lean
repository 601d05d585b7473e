import Mathlib.Tactic.SplitIfs
import TypedTag.Json.Text
import TypedTag.Text.Literal

/-! # Literals read back

Reading a string gives back what a literal was written from and stops right behind its closing
quote, whatever follows. So a literal is never the beginning of another one, and it has no line
break in it.
-/

namespace TypedTag.Text

open Json

variable {paired : Bool}

theorem hexDigit?_digitChar : ∀ n < 16, hexDigit? (Nat.digitChar n) = some n := by
  decide

theorem space_le_digitChar : ∀ n < 16, 0x20 ≤ (Nat.digitChar n).toNat := by
  decide

theorem closeUnit_none_of_lt {n : Nat} (h : n < 0x20) :
    closeUnit paired none n = .ok (.none, some (Char.ofNat n)) := by
  unfold closeUnit
  split_ifs <;> first | rfl | omega

theorem space_le_of_shortEscape? {e c : Char} (h : shortEscape? e = some c) :
    0x20 ≤ e.toNat := by
  unfold shortEscape? at h
  split at h <;> first | decide | simp at h

theorem escape_cases (c : Char) :
    (∃ e, shortEscape? e = some c ∧ escape c = ['\\', e]) ∨
    (c.toNat < 0x20 ∧ escape c =
      ['\\', 'u', '0', '0', Nat.digitChar (c.toNat / 16), Nat.digitChar (c.toNat % 16)]) ∨
    (c ≠ '"' ∧ c ≠ '\\' ∧ 0x20 ≤ c.toNat ∧ escape c = [c]) := by
  unfold escape
  split_ifs with h₁ h₂ h₃ h₄ h₅ h₆ h₇ h₈
  · exact .inl ⟨'"', by rw [h₁]; rfl, rfl⟩
  · exact .inl ⟨'\\', by rw [h₂]; rfl, rfl⟩
  · exact .inl ⟨'b', by rw [h₃]; rfl, rfl⟩
  · exact .inl ⟨'f', by rw [h₄]; rfl, rfl⟩
  · exact .inl ⟨'n', by rw [h₅]; rfl, rfl⟩
  · exact .inl ⟨'r', by rw [h₆]; rfl, rfl⟩
  · exact .inl ⟨'t', by rw [h₇]; rfl, rfl⟩
  · exact .inr (.inl ⟨h₈, rfl⟩)
  · exact .inr (.inr ⟨h₁, h₂, Nat.le_of_not_lt h₈, rfl⟩)

theorem stringRest_shortEscape {e c : Char} (h : shortEscape? e = some c) (cs : List Char) :
    stringRest paired .none ('\\' :: e :: cs) =
      (stringRest paired .none cs).map fun (s, rest) => (c :: s, rest) := by
  have hu : e ≠ 'u' := by rintro rfl; simp [shortEscape?] at h
  simp [stringRest, hu, h]

theorem stringRest_numberEscape {c : Char} (h : c.toNat < 0x20) (cs : List Char) :
    stringRest paired .none ('\\' :: 'u' :: '0' :: '0' :: Nat.digitChar (c.toNat / 16) ::
        Nat.digitChar (c.toNat % 16) :: cs) =
      (stringRest paired .none cs).map fun (s, rest) => (c :: s, rest) := by
  have h₀ : hexDigit? '0' = some 0 := by decide
  have h₁ := hexDigit?_digitChar (c.toNat / 16) (by omega)
  have h₂ := hexDigit?_digitChar (c.toNat % 16) (by omega)
  have hc : c.toNat / 16 * 16 + c.toNat % 16 = c.toNat := by omega
  simp [stringRest, h₀, h₁, h₂, hc, closeUnit_none_of_lt h, Char.ofNat_toNat, bind, Except.bind]

theorem stringRest_escape (c : Char) (cs : List Char) :
    stringRest paired .none (escape c ++ cs) =
      (stringRest paired .none cs).map fun (s, rest) => (c :: s, rest) := by
  rcases escape_cases c with ⟨e, he, h⟩ | ⟨hc, h⟩ | ⟨hq, hb, hc, h⟩ <;> rw [h]
  · exact stringRest_shortEscape he cs
  · exact stringRest_numberEscape hc cs
  · simp [stringRest, hq, hb, Nat.not_lt.mpr hc]

/-- Between its quotes a literal is read as the text it was written from. -/
theorem stringRest_flatMap_escape (s rest : List Char) :
    stringRest paired .none (s.flatMap escape ++ '"' :: rest) = .ok (s, rest) := by
  induction s with
  | nil => simp [stringRest]
  | cons c s ih =>
    rw [List.flatMap_cons, List.append_assoc, stringRest_escape, ih]
    rfl

@[simp] theorem toList_literal (s : String) : (literal s).toList = literalChars s.toList := by
  simp [literal]

theorem literalChars_append (s rest : List Char) :
    literalChars s ++ rest = '"' :: (s.flatMap escape ++ '"' :: rest) := by
  simp [literalChars]

theorem literalChars_append_inj {s t r u : List Char}
    (h : literalChars s ++ r = literalChars t ++ u) : s = t ∧ r = u := by
  rw [literalChars_append, literalChars_append, List.cons.injEq] at h
  have hs : stringRest true .none (s.flatMap escape ++ '"' :: r) = .ok (s, r) :=
    stringRest_flatMap_escape s r
  rw [h.2, stringRest_flatMap_escape] at hs
  simpa [eq_comm] using hs

theorem literal_injective : Function.Injective literal := by
  intro s t h
  have hl : literalChars s.toList ++ [] = literalChars t.toList ++ [] := by
    rw [← toList_literal, ← toList_literal, h]
  exact String.toList_inj.mp (literalChars_append_inj hl).1

/-- All that is written for a character stands above the control characters. -/
theorem space_le_of_mem_escape {c d : Char} (hd : d ∈ escape c) : 0x20 ≤ d.toNat := by
  rcases escape_cases c with ⟨e, he, h⟩ | ⟨hc, h⟩ | ⟨_, _, hc, h⟩ <;> rw [h] at hd <;>
    simp only [List.mem_cons, List.not_mem_nil, or_false] at hd
  · rcases hd with rfl | rfl
    · decide
    · exact space_le_of_shortEscape? he
  · have hq := space_le_digitChar (c.toNat / 16) (by omega)
    have hr := space_le_digitChar (c.toNat % 16) (by omega)
    rcases hd with rfl | rfl | rfl | rfl | rfl | rfl <;> first | assumption | decide
  · rwa [hd]

theorem space_le_of_mem_literalChars {s : List Char} {d : Char} (h : d ∈ literalChars s) :
    0x20 ≤ d.toNat := by
  simp only [literalChars, List.cons_append, List.mem_cons, List.mem_append, List.mem_flatMap,
    List.not_mem_nil, or_false] at h
  rcases h with rfl | ⟨c, _, hc⟩ | rfl
  · decide
  · exact space_le_of_mem_escape hc
  · decide

theorem lineFeed_not_mem_literalChars (s : List Char) : '\n' ∉ literalChars s := by
  intro h
  exact absurd (space_le_of_mem_literalChars h) (by decide)

end TypedTag.Text
