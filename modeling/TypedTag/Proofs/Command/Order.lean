import Mathlib.Data.List.Lex
import Mathlib.Data.List.Perm.Basic
import Mathlib.Data.String.Basic
import TypedTag.Command.Discovery

/-! # Locations in order

The order of locations is the lexicographic one, by names and in these by characters. A list that is
put in order increases strictly, and depends on nothing but the locations in it.
-/

namespace TypedTag.Command

open Files

variable {a b place : Location} {places places' : List Location}

theorem nameBefore_iff {a b : String} : nameBefore a b = true ↔ a < b := by
  unfold nameBefore
  rw [List.lex_eq_true_iff_lex, String.lt_iff_toList_lt]
  simp only [decide_eq_true_eq]
  exact Iff.rfl

theorem precedes_iff : precedes a b = true ↔ a ≤ b := by
  have h : b.lex a nameBefore = true ↔ b < a := by
    rw [List.lex_eq_true_iff_lex]
    simp only [nameBefore_iff]
    exact Iff.rfl
  rw [precedes, Bool.not_eq_true', ← Bool.not_eq_true, h, not_lt]

theorem pairwise_mergeSort_precedes (places : List Location) :
    (places.mergeSort precedes).Pairwise (· ≤ ·) := by
  have h : (places.mergeSort precedes).Pairwise fun a b => precedes a b = true := by
    refine List.pairwise_mergeSort (fun a b c hab hbc => ?_) (fun a b => ?_) places
    · exact precedes_iff.mpr ((precedes_iff.mp hab).trans (precedes_iff.mp hbc))
    · rw [Bool.or_eq_true, precedes_iff, precedes_iff]
      exact le_total a b
  simpa only [precedes_iff] using h

theorem eraseRepsBy_loop {α : Type} (r : α → α → Bool) (a : α) (as acc : List α) :
    List.eraseRepsBy.loop r a as acc = acc.reverse ++ List.eraseRepsBy.loop r a as [] := by
  induction as generalizing a acc with
  | nil => simp [List.eraseRepsBy.loop]
  | cons b as ih =>
    simp only [List.eraseRepsBy.loop]
    cases r a b with
    | true => exact ih a acc
    | false =>
      rw [ih b (a :: acc), ih b [a]]
      simp

theorem eraseReps_cons_cons (a b : Location) (places : List Location) :
    (a :: b :: places).eraseReps =
      if a = b then (a :: places).eraseReps else a :: (b :: places).eraseReps := by
  simp only [List.eraseReps, List.eraseRepsBy, List.eraseRepsBy.loop]
  by_cases h : a = b
  · rw [if_pos h, beq_iff_eq.mpr h]
  · rw [if_neg h, beq_eq_false_iff_ne.mpr h]
    exact eraseRepsBy_loop _ b places [a]

theorem mem_eraseReps_cons (a : Location) (places : List Location) :
    place ∈ (a :: places).eraseReps ↔ place ∈ a :: places := by
  induction places generalizing a with
  | nil => rfl
  | cons b places ih =>
    rw [eraseReps_cons_cons]
    by_cases h : a = b
    · rw [if_pos h, ih a, h]
      simp
    · rw [if_neg h, List.mem_cons, ih b, List.mem_cons (b := a)]

theorem pairwise_lt_eraseReps_cons (h : (a :: places).Pairwise (· ≤ ·)) :
    (a :: places).eraseReps.Pairwise (· < ·) := by
  induction places generalizing a with
  | nil => exact List.pairwise_singleton _ a
  | cons b places ih =>
    obtain ⟨ha, hb⟩ := List.pairwise_cons.mp h
    rw [eraseReps_cons_cons]
    by_cases he : a = b
    · subst he
      rw [if_pos rfl]
      exact ih hb
    · rw [if_neg he, List.pairwise_cons]
      refine ⟨fun c hc => ?_, ih hb⟩
      have hab : a < b := lt_of_le_of_ne (ha b List.mem_cons_self) he
      rw [mem_eraseReps_cons, List.mem_cons] at hc
      rcases hc with rfl | hc
      · exact hab
      · exact lt_of_lt_of_le hab ((List.pairwise_cons.mp hb).1 c hc)

theorem mem_inOrder : place ∈ inOrder places ↔ place ∈ places := by
  have hm : place ∈ places.mergeSort precedes ↔ place ∈ places := List.mem_mergeSort
  rw [inOrder, ← hm]
  cases places.mergeSort precedes with
  | nil => rfl
  | cons a sorted => exact mem_eraseReps_cons a sorted

theorem pairwise_lt_inOrder (places : List Location) : (inOrder places).Pairwise (· < ·) := by
  have h := pairwise_mergeSort_precedes places
  rw [inOrder]
  cases hs : places.mergeSort precedes with
  | nil => exact .nil
  | cons a sorted =>
    rw [hs] at h
    exact pairwise_lt_eraseReps_cons h

theorem eq_of_pairwise_lt (h : places.Pairwise (· < ·)) (h' : places'.Pairwise (· < ·))
    (hm : ∀ place, place ∈ places ↔ place ∈ places') : places = places' := by
  have hn : places.Nodup := h.imp fun hab => ne_of_lt hab
  have hn' : places'.Nodup := h'.imp fun hab => ne_of_lt hab
  have hp : places.Perm places' := (List.perm_ext_iff_of_nodup hn hn').mpr hm
  exact hp.eq_of_pairwise (fun a b _ _ hab hba => absurd (hab.trans hba) (lt_irrefl a)) h h'

end TypedTag.Command
