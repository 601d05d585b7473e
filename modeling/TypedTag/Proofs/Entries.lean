import Mathlib.Data.List.Nodup

/-! # Entries found by their keys

What is found under a key is the first entry with that key. If no key is repeated, it is the only
one.
-/

namespace TypedTag

variable {α β γ : Type} [BEq α] [LawfulBEq α] {entries : List (α × β)}

theorem lookup_cons_eq_ite [DecidableEq α] (e : α × β) (entries : List (α × β)) (t : α) :
    (e :: entries).lookup t = if t = e.1 then some e.2 else entries.lookup t := by
  by_cases h : t = e.1
  · rw [if_pos h, h, List.lookup_cons_self]
  · rw [if_neg h, List.lookup_cons, beq_eq_false_iff_ne.mpr h]

theorem lookup_map_snd (f : β → γ) (entries : List (α × β)) (t : α) :
    (entries.map fun e => (e.1, f e.2)).lookup t = (entries.lookup t).map f := by
  classical
  induction entries with
  | nil => rfl
  | cons e entries ih =>
    rw [List.map_cons, lookup_cons_eq_ite, lookup_cons_eq_ite, ih]
    split_ifs <;> rfl

theorem lookup_eq_none_of_nodup {e : α × β} (h : ((e :: entries).map (·.1)).Nodup) :
    entries.lookup e.1 = none := by
  rw [List.map_cons, List.nodup_cons] at h
  exact List.lookup_eq_none_iff.mpr fun p hp =>
    bne_iff_ne.mpr fun hk => h.1 (hk ▸ List.mem_map_of_mem hp)

theorem filter_key_eq_lookup [DecidableEq α] (nodup : (entries.map (·.1)).Nodup) (t : α) :
    entries.filter (·.1 = t) = (entries.lookup t).toList.map (t, ·) := by
  induction entries with
  | nil => rfl
  | cons e entries ih =>
    rw [lookup_cons_eq_ite, List.filter_cons, ih nodup.of_cons]
    by_cases h : e.1 = t
    · subst h
      simp [lookup_eq_none_of_nodup nodup]
    · simp [h, Ne.symm h]

theorem lookup_eq_some_of_mem (nodup : (entries.map (·.1)).Nodup) {e : α × β} (h : e ∈ entries) :
    entries.lookup e.1 = some e.2 := by
  classical
  have hm : e ∈ entries.filter (·.1 = e.1) := List.mem_filter.mpr ⟨h, by simp⟩
  rw [filter_key_eq_lookup nodup] at hm
  obtain ⟨d, hd, he⟩ := List.mem_map.mp hm
  rw [Option.mem_toList.mp hd, ← he]

end TypedTag
