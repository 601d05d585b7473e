import TypedTag.Proofs.Registry.Occurrences

/-! # What conflicts say about dispatch

A conflict names the definition that its text was left with and the one that lost. That is true when
the conflict is recorded. A later conflict about the same text may overturn it if the last
definition wins, so of several conflicts only the newest one is sure to tell what the text leads to.
-/

namespace TypedTag

/-- Tells that a conflict keeps what its text leads to, and discards something else. -/
def Conflict.HoldsIn (c : Conflict) (r : Registry) : Prop :=
  r.definition? c.text = some c.kept ∧ r.definition? c.text ≠ some c.discarded

def newestConflict? (text : String) (conflicts : List Conflict) : Option Conflict :=
  (conflicts.filter (·.text = text)).getLast?

theorem newestConflict?_append_singleton (t : String) (cs : List Conflict) (c : Conflict) :
    newestConflict? t (cs ++ [c]) = if c.text = t then some c else newestConflict? t cs := by
  by_cases h : c.text = t <;> simp [newestConflict?, List.filter_append, h]

theorem exists_newestConflict {c : Conflict} {cs : List Conflict} (h : c ∈ cs) :
    ∃ n, newestConflict? c.text cs = some n := by
  have hm : c ∈ cs.filter (·.text = c.text) := List.mem_filter.mpr ⟨h, by simp⟩
  exact ⟨_, List.getLast?_eq_some_getLast (List.ne_nil_of_mem hm)⟩

theorem text_of_newestConflict? {t : String} {n : Conflict} {cs : List Conflict}
    (h : newestConflict? t cs = some n) : n.text = t := by
  have hm := List.mem_of_getLast? h
  simpa using (List.mem_filter.mp hm).2

namespace DuplicatePolicy

variable (policy : DuplicatePolicy) (s : Source) (known : String)

@[simp] theorem text_settle : (policy.settle s known).text = s.text := by
  cases policy <;> rfl

theorem kept_settle : policy.choose? [known, s.definition] = some (policy.settle s known).kept := by
  cases policy <;> rfl

theorem kept_ne_discarded_settle {s : Source} {known : String} (h : known ≠ s.definition) :
    (policy.settle s known).kept ≠ (policy.settle s known).discarded := by
  cases policy with
  | firstWins => exact h
  | lastWins => exact h.symm

end DuplicatePolicy

namespace Registry

variable {policy : DuplicatePolicy} {r : Registry} {s : Source}

theorem definition?_add_of_ne {t : String} (h : t ≠ s.text) :
    (r.add policy s).definition? t = r.definition? t := by
  rw [definition?_add, if_neg h]

theorem definition?_add_of_known {known : String} (h : r.definition? s.text = some known) :
    (r.add policy s).definition? s.text = some (policy.settle s known).kept := by
  rw [definition?_add, if_pos rfl, h]
  exact policy.kept_settle s known

theorem definition?_add_firstWins {t d : String} (h : r.definition? t = some d) :
    (r.add .firstWins s).definition? t = some d := by
  rw [definition?_add]
  split_ifs
  · rw [h]; rfl
  · exact h

/-- What the conflicts of a registry have to do with its entries. -/
structure Accounts (policy : DuplicatePolicy) (r : Registry) : Prop where
  kept_ne_discarded : ∀ c ∈ r.conflicts, c.kept ≠ c.discarded
  newest : ∀ t n, newestConflict? t r.conflicts = some n → r.definition? t = some n.kept
  firstWins : policy = .firstWins → ∀ c ∈ r.conflicts, r.definition? c.text = some c.kept

theorem accounts_empty (policy : DuplicatePolicy) : Accounts policy {} where
  kept_ne_discarded := by simp
  newest := by simp [newestConflict?]
  firstWins := by simp

theorem Accounts.add (h : r.Accounts policy) (s : Source) : (r.add policy s).Accounts policy := by
  rcases r.add_cases policy s with ⟨hn, _, hc⟩ | ⟨_, hr⟩ | ⟨known, hk, hne, hc, _⟩
  · -- A new text: it has no conflict yet, and all others lead where they led before.
    have keep : ∀ {t d}, r.definition? t = some d → (r.add policy s).definition? t = some d := by
      intro t d hd
      have ht : t ≠ s.text := by
        rintro rfl
        rw [hn] at hd
        exact absurd hd (by simp)
      rw [definition?_add_of_ne ht, hd]
    constructor
    · rw [hc]; exact h.kept_ne_discarded
    · intro t n ht
      rw [hc] at ht
      exact keep (h.newest t n ht)
    · intro hp c hm
      rw [hc] at hm
      exact keep (h.firstWins hp c hm)
  · rw [hr]; exact h
  · constructor
    · rw [hc, List.forall_mem_append]
      refine ⟨h.kept_ne_discarded, ?_⟩
      simpa using policy.kept_ne_discarded_settle hne
    · intro t n ht
      rw [hc, newestConflict?_append_singleton, DuplicatePolicy.text_settle] at ht
      split_ifs at ht with hs
      · obtain rfl := Option.some.inj ht
        rw [← hs, definition?_add_of_known hk]
      · rw [definition?_add_of_ne (Ne.symm hs)]
        exact h.newest t n ht
    · rintro rfl
      rw [hc, List.forall_mem_append]
      refine ⟨fun c hm => definition?_add_firstWins (h.firstWins rfl c hm), ?_⟩
      simpa using definition?_add_of_known hk

theorem accounts_ofSources (policy : DuplicatePolicy) (sources : List Source) :
    (ofSources policy sources).Accounts policy := by
  induction sources using List.reverseRecOn with
  | nil => exact accounts_empty policy
  | append_singleton xs s ih =>
    rw [ofSources_append_singleton]
    exact ih.add s

theorem Accounts.holdsIn_iff (h : r.Accounts policy) {c : Conflict} (hc : c ∈ r.conflicts) :
    c.HoldsIn r ↔ r.definition? c.text = some c.kept := by
  refine ⟨And.left, fun hd => ⟨hd, ?_⟩⟩
  rw [hd, ne_eq, Option.some.injEq]
  exact h.kept_ne_discarded c hc

theorem Accounts.holdsIn_of_newest (h : r.Accounts policy) {t : String} {n : Conflict}
    (hn : newestConflict? t r.conflicts = some n) : n.HoldsIn r := by
  have hm : n ∈ r.conflicts := (List.mem_filter.mp (List.mem_of_getLast? hn)).1
  obtain rfl : n.text = t := text_of_newestConflict? hn
  exact (h.holdsIn_iff hm).mpr (h.newest _ _ hn)

/-- A conflict holds in the registry it is recorded in. Later it still does if it keeps the same
definition as the newest conflict about its text, which always holds. If the first definition wins,
every conflict goes on to hold. -/
theorem holdsIn_iff_kept_eq_newest (policy : DuplicatePolicy) (sources : List Source) :
    let r := ofSources policy sources
    (∀ c ∈ r.conflicts, ∃ n, newestConflict? c.text r.conflicts = some n ∧ n.HoldsIn r ∧
      (c.HoldsIn r ↔ c.kept = n.kept)) ∧
    (∀ c ∈ (ofSources .firstWins sources).conflicts, c.HoldsIn (ofSources .firstWins sources)) ∧
    ∀ s c, (r.add policy s).conflicts = r.conflicts ++ [c] → c.HoldsIn (r.add policy s) := by
  intro r
  have ha : r.Accounts policy := accounts_ofSources policy sources
  refine ⟨fun c hc => ?_, fun c hc => ?_, fun s c hs => ?_⟩
  · obtain ⟨n, hn⟩ := exists_newestConflict hc
    refine ⟨n, hn, ha.holdsIn_of_newest hn, ?_⟩
    rw [ha.holdsIn_iff hc, ha.newest _ _ hn, Option.some.injEq, eq_comm]
  · have hf := accounts_ofSources .firstWins sources
    exact (hf.holdsIn_iff hc).mpr (hf.firstWins rfl c hc)
  · have hn : newestConflict? c.text (r.add policy s).conflicts = some c := by
      rw [hs, newestConflict?_append_singleton, if_pos rfl]
    exact (ha.add s).holdsIn_of_newest hn

/-- If the last definition wins, a definition may come back after it was discarded. The conflict
that discarded it then says the opposite of what holds. -/
theorem overturned_conflict :
    let r := ofSources .lastWins [⟨"{ a }", "A"⟩, ⟨"{ a }", "B"⟩, ⟨"{ a }", "A"⟩]
    ⟨"{ a }", "B", "A"⟩ ∈ r.conflicts ∧ r.definition? "{ a }" = some "A" ∧
      ¬ ∀ c ∈ r.conflicts, c.HoldsIn r := by
  intro r
  have hc : ⟨"{ a }", "B", "A"⟩ ∈ r.conflicts := by decide
  have hd : r.definition? "{ a }" = some "A" := by decide
  refine ⟨hc, hd, fun h => ?_⟩
  exact (h _ hc).2 hd

end Registry

end TypedTag
