import Mathlib.Data.List.Perm.Basic
import TypedTag.Proofs.Registry.Unambiguous

/-! # Sources in another order

A registry has a conflict just when some text comes with two definitions. So whether there is a
conflict depends neither on the order of the sources nor on the policy, although the conflicts that
are recorded do. Without conflicts a text leads to the definition that it has in the sources.
-/

namespace TypedTag

variable {policy : DuplicatePolicy} {xs ys : List Source} {s : Source} {t d : String}

theorem DuplicatePolicy.conflict?_eq_none_iff {known : Option String} :
    policy.conflict? known s = none ↔ ∀ d, known = some d → d = s.definition := by
  cases known <;> simp [conflict?, Option.filter]

theorem Unambiguous.append_singleton (h : Unambiguous xs)
    (hs : ∀ a ∈ xs, a.text = s.text → a.definition = s.definition) : Unambiguous (xs ++ [s]) := by
  intro a ha b hb ht
  rw [List.mem_append, List.mem_singleton] at ha hb
  rcases ha with ha | rfl <;> rcases hb with hb | rfl
  · exact h a ha b hb ht
  · exact hs a ha ht
  · exact (hs b hb ht.symm).symm
  · rfl

theorem Unambiguous.perm (h : Unambiguous xs) (hp : ys.Perm xs) : Unambiguous ys :=
  fun s hs s' hs' => h s (hp.mem_iff.mp hs) s' (hp.mem_iff.mp hs')

namespace Registry

theorem definition?_eq_some_iff (h : Unambiguous xs) :
    (ofSources policy xs).definition? t = some d ↔ ⟨t, d⟩ ∈ xs := by
  refine ⟨mem_sources_of_definition?, fun hm => ?_⟩
  have ht : t ∈ distinctTexts xs := List.mem_eraseDups.mpr (List.mem_map_of_mem hm)
  obtain ⟨d', hd⟩ := exists_definition?_of_mem policy ht
  have he : d' = d := h _ (mem_sources_of_definition? hd) _ hm rfl
  rw [hd, he]

/-- A source that differs from an earlier one cannot go unnoticed: while there is no conflict, what
it is compared with is the definition that all earlier sources of its text have. -/
theorem unambiguous_of_conflicts_eq_nil (h : (ofSources policy xs).conflicts = []) :
    Unambiguous xs := by
  induction xs using List.reverseRecOn with
  | nil => exact fun s hs => absurd hs List.not_mem_nil
  | append_singleton xs s ih =>
    rw [ofSources_append_singleton, conflicts_add, List.append_eq_nil_iff,
      Option.toList_eq_nil_iff, DuplicatePolicy.conflict?_eq_none_iff] at h
    have hx : Unambiguous xs := ih h.1
    refine hx.append_singleton fun a ha ht => h.2 a.definition ?_
    rw [definition?_eq_some_iff hx, ← ht]
    exact ha

theorem conflicts_eq_nil_iff : (ofSources policy xs).conflicts = [] ↔ Unambiguous xs :=
  ⟨unambiguous_of_conflicts_eq_nil, fun h => conflicts_eq_nil h policy⟩

/-- Every policy finds a conflict in every order of the sources if two of them have the same text
and different definitions, and in no order otherwise. If there is none, each text leads to the same
definition in whatever order and by whatever policy. -/
theorem conflicts_eq_nil_iff_of_perm (p q : DuplicatePolicy) {sources xs ys : List Source}
    (hx : xs.Perm sources) (hy : ys.Perm sources) :
    ((ofSources p xs).conflicts = [] ↔ Unambiguous sources) ∧
    (Unambiguous sources → ∀ t,
      (ofSources p xs).definition? t = (ofSources q ys).definition? t) := by
  refine ⟨?_, fun h t => Option.ext fun d => ?_⟩
  · rw [conflicts_eq_nil_iff]
    exact ⟨fun h => h.perm hx.symm, fun h => h.perm hx⟩
  · rw [definition?_eq_some_iff (h.perm hx), definition?_eq_some_iff (h.perm hy), hx.mem_iff,
      hy.mem_iff]

/-- Of three occurrences of a text the one that differs is noticed, also where it comes last. With
two that agree nothing depends on the order. -/
theorem conflicts_of_reordered_text :
    let sources : List Source := [⟨"a", "A"⟩, ⟨"a", "B"⟩, ⟨"b", "B"⟩, ⟨"a", "A"⟩]
    let xs : List Source := [⟨"a", "A"⟩, ⟨"a", "A"⟩, ⟨"b", "B"⟩, ⟨"a", "B"⟩]
    let ys : List Source := [⟨"a", "A"⟩, ⟨"b", "B"⟩, ⟨"a", "A"⟩]
    let zs : List Source := [⟨"b", "B"⟩, ⟨"a", "A"⟩, ⟨"a", "A"⟩]
    xs.Perm sources ∧ ¬ Unambiguous sources ∧ (ofSources .lastWins xs).conflicts ≠ [] ∧
      zs.Perm ys ∧ Unambiguous ys ∧
      (ofSources .firstWins zs).definition? "a" = (ofSources .lastWins ys).definition? "a" := by
  intro sources xs ys zs
  have hx : xs.Perm sources := by decide
  have hz : zs.Perm ys := by decide
  have hs : ¬ Unambiguous sources := by unfold Unambiguous; decide
  have hy : Unambiguous ys := by unfold Unambiguous; decide
  refine ⟨hx, hs, fun hn => hs ?_, hz, hy, ?_⟩
  · exact (conflicts_eq_nil_iff_of_perm .lastWins .lastWins hx hx).1.mp hn
  · exact (conflicts_eq_nil_iff_of_perm .firstWins .lastWins hz (.refl ys)).2 hy "a"

end Registry

end TypedTag
