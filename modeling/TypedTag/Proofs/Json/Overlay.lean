import Mathlib.Data.List.Nodup
import TypedTag.Proofs.Json.Members
import TypedTag.Proofs.Outcome

/-! # Members laid over records

A field takes only values that stand for something it can hold. Members are laid over a record by
putting each of them into the field that its key names, which has to be another one every time.
-/

namespace TypedTag.Json

variable {α σ : Type}

/-- Tells that a value names a variant, either as a string or as the only key of an object. -/
def Names (name : String) (v : Value) : Prop :=
  v = .string name ∨ v = .object [(name, .null)] ∨ v = .object [(name, .object [])]

theorem mem_map_fst_of_chosen {variants : List (String × α)} {name : String} {a : α}
    (h : chosen variants name = .ok a) : name ∈ variants.map (·.1) := by
  unfold chosen at h
  split at h
  case h_1 hl =>
    obtain ⟨_, _, rfl, -⟩ := List.lookup_eq_some_iff.mp hl
    simp
  case h_2 => cases h

namespace Slot

variable {s s' : σ} {v : Value}

theorem put_text_eq_ok_iff {get : σ → String} {set : String → σ → σ} :
    (text get set).put s v = .ok s' ↔ ∃ t, v = .string t ∧ set t s = s' := by
  cases v <;> simp [put]

theorem put_optionalText_eq_ok_iff {get : σ → Option String} {set : Option String → σ → σ} :
    (optionalText get set).put s v = .ok s' ↔ ∃ t, v = t.elim .null .string ∧ set t s = s' := by
  cases v <;> simp [put, Option.exists]

theorem put_flag_eq_ok_iff {get : σ → Bool} {set : Bool → σ → σ} :
    (flag get set).put s v = .ok s' ↔ ∃ b, v = .boolean b ∧ set b s = s' := by
  cases v <;> simp [put]

theorem put_choice_eq_ok_iff {get : σ → String} {variants : List (String × (σ → σ))} :
    (choice get variants).put s v = .ok s' ↔
      ∃ name variant, Names name v ∧ chosen variants name = .ok variant ∧ variant s = s' := by
  constructor
  · intro h
    cases v with
    | string name =>
      obtain ⟨variant, hc, hv⟩ := map_eq_ok_iff.mp h
      exact ⟨name, variant, .inl rfl, hc, hv⟩
    | object ms =>
      rcases ms with _ | ⟨⟨name, content⟩, _ | ⟨_, _⟩⟩
      · cases h
      · obtain ⟨variant, hc, hv⟩ := bind_eq_ok_iff.mp h
        split at hv
        · exact ⟨name, variant, .inr (.inl rfl), hc, Except.ok.inj hv⟩
        · exact ⟨name, variant, .inr (.inr rfl), hc, Except.ok.inj hv⟩
        · cases hv
      · cases h
    | _ => cases h
  · rintro ⟨name, variant, rfl | rfl | rfl, hc, rfl⟩
    · exact map_eq_ok_iff.mpr ⟨variant, hc, rfl⟩
    · exact bind_eq_ok_iff.mpr ⟨variant, hc, rfl⟩
    · exact bind_eq_ok_iff.mpr ⟨variant, hc, rfl⟩

end Slot

theorem nodup_filter_iff {p : String → Bool} {ks : List String} :
    (ks.filter p).Nodup ↔ ∀ key, p key → ks.count key ≤ 1 := by
  rw [List.nodup_iff_count_le_one]
  refine forall_congr' fun key => ?_
  cases hp : p key with
  | true => simp [List.count_filter hp]
  | false =>
    have hn : key ∉ ks.filter p := by simp [hp]
    simp [List.count_eq_zero_of_not_mem hn]

namespace Record

variable {r : Record σ} {seen : List String} {s s' : σ} {ms : List (String × Value)}
  {key : String}

theorem takes_iff : r.takes key ↔ key ∈ r.fields.map (·.name) := by
  simp [takes, field?]

def putMember (r : Record σ) (s : σ) (m : String × Value) : Except Error σ :=
  match r.field? m.1 with
  | none => .ok s
  | some f => f.slot.put s m.2

theorem putMember_of_not_takes {v : Value} (h : ¬ r.takes key) :
    r.putMember s (key, v) = .ok s := by
  have hf : r.field? key = none := by simpa [takes] using h
  rw [putMember, hf]

/-- Members are laid over a record by putting them in one by one, if no field is set twice. -/
theorem overlay_eq_ok_iff : r.overlay seen s ms = .ok s' ↔
    ms.foldlM r.putMember s = .ok s' ∧ ((ms.map (·.1)).filter r.takes).Nodup ∧
      ∀ key ∈ (ms.map (·.1)).filter r.takes, key ∉ seen := by
  induction ms generalizing seen s with
  | nil => simp [overlay, pure, Except.pure]
  | cons m ms ih =>
    obtain ⟨key, v⟩ := m
    rw [overlay, List.foldlM_cons, putMember, List.map_cons]
    cases hf : r.field? key with
    | none =>
      rw [List.filter_cons_of_neg (by simp [takes, hf])]
      exact ih
    | some f =>
      rw [List.filter_cons_of_pos (by simp [takes, hf]), List.nodup_cons, List.forall_mem_cons]
      simp only
      split
      case isTrue hs => simp [hs]
      case isFalse hs =>
        simp only [bind_eq_ok_iff, ih, List.mem_cons, not_or]
        constructor
        · rintro ⟨s₁, hp, hm, hn, hk⟩
          exact ⟨⟨s₁, hp, hm⟩, ⟨fun h => (hk key h).1 rfl, hn⟩, hs, fun k h => (hk k h).2⟩
        · rintro ⟨⟨s₁, hp, hm⟩, ⟨hk, hn⟩, -, hseen⟩
          exact ⟨s₁, hp, hm, hn, fun k h => ⟨fun he => hk (he ▸ h), hseen k h⟩⟩

theorem overlay_nil_eq_ok_iff : r.overlay [] s ms = .ok s' ↔
    ms.foldlM r.putMember s = .ok s' ∧ ∀ key, r.takes key → (ms.map (·.1)).count key ≤ 1 := by
  rw [overlay_eq_ok_iff, nodup_filter_iff]
  simp

end Record

end TypedTag.Json
