import Mathlib.Data.List.Basic
import Mathlib.Data.List.Induction
import TypedTag.Proofs.Entries
import TypedTag.Registry

/-! # What a registry holds

A registry is determined by the occurrences of the texts in its sources. The texts stand in the
order of their first occurrences, and the policy chooses between the first and the last definition
of each. A source is in conflict if the choice among the earlier sources differs from it.
-/

namespace TypedTag

def definitionsOf (text : String) (sources : List Source) : List String :=
  (sources.filter (·.text = text)).map (·.definition)

/-- The texts of the sources, each once, where it occurs first. -/
def distinctTexts (sources : List Source) : List String :=
  (sources.map (·.text)).eraseDups

namespace DuplicatePolicy

def choose? : DuplicatePolicy → List String → Option String
  | .firstWins, definitions => definitions.head?
  | .lastWins, definitions => definitions.getLast?

def settle (s : Source) (known : String) : DuplicatePolicy → Conflict
  | .firstWins => ⟨s.text, known, s.definition⟩
  | .lastWins => ⟨s.text, s.definition, known⟩

def conflict? (policy : DuplicatePolicy) (known : Option String) (s : Source) : Option Conflict :=
  (known.filter (· ≠ s.definition)).map (policy.settle s)

/-- One conflict for each source that differs from the choice among the earlier ones of its text. -/
def conflictsOf (policy : DuplicatePolicy) (sources : List Source) : List Conflict :=
  sources.zipIdx.filterMap fun (s, i) =>
    policy.conflict? (policy.choose? (definitionsOf s.text (sources.take i))) s

end DuplicatePolicy

variable {policy : DuplicatePolicy} {sources : List Source} {s : Source} {t : String}

theorem definitionsOf_append (t : String) (xs ys : List Source) :
    definitionsOf t (xs ++ ys) = definitionsOf t xs ++ definitionsOf t ys := by
  simp [definitionsOf]

theorem definitionsOf_singleton (t : String) (s : Source) :
    definitionsOf t [s] = if s.text = t then [s.definition] else [] := by
  by_cases h : s.text = t <;> simp [definitionsOf, h]

theorem definitionsOf_eq_nil (h : t ∉ sources.map (·.text)) : definitionsOf t sources = [] := by
  simp only [List.mem_map, not_exists, not_and] at h
  simpa [definitionsOf] using h

theorem distinctTexts_append_singleton (xs : List Source) (s : Source) :
    distinctTexts (xs ++ [s]) =
      distinctTexts xs ++ if s.text ∈ distinctTexts xs then [] else [s.text] := by
  simp only [distinctTexts, List.map_append, List.map_singleton, List.eraseDups_append,
    List.mem_eraseDups]
  generalize xs.map (·.text) = ts
  by_cases h : s.text ∈ ts <;> simp [List.removeAll, h, List.eraseDups_cons]

namespace DuplicatePolicy

/-- Of the definitions before another one only the chosen one matters. -/
theorem choose?_append_singleton (policy : DuplicatePolicy) (ds : List String) (d : String) :
    policy.choose? (ds ++ [d]) = policy.choose? ((policy.choose? ds).toList ++ [d]) := by
  cases policy with
  | firstWins => cases ds <;> rfl
  | lastWins => simp [choose?]

theorem conflictsOf_append_singleton (policy : DuplicatePolicy) (xs : List Source) (s : Source) :
    policy.conflictsOf (xs ++ [s]) = policy.conflictsOf xs ++
      (policy.conflict? (policy.choose? (definitionsOf s.text xs)) s).toList := by
  have hx : ∀ p ∈ xs.zipIdx, (xs ++ [s]).take p.2 = xs.take p.2 := fun p hp =>
    List.take_append_of_le_length (Nat.le_of_lt (List.snd_lt_of_mem_zipIdx hp))
  simp only [conflictsOf, List.zipIdx_append, List.filterMap_append]
  congr 1
  · exact List.filterMap_congr fun p hp => by rw [hx p hp]
  · cases h : policy.conflict? (policy.choose? (definitionsOf s.text xs)) s <;> simp [h]

end DuplicatePolicy

theorem lookup_setDefinition (text definition t : String) (entries : List (String × String)) :
    (setDefinition text definition entries).lookup t =
      if t = text then (entries.lookup t).map fun _ => definition else entries.lookup t := by
  induction entries with
  | nil => simp [setDefinition]
  | cons e entries ih =>
    rw [setDefinition, List.map_cons, lookup_cons_eq_ite, lookup_cons_eq_ite, ← setDefinition, ih]
    split_ifs <;> simp_all

namespace Registry

/-- What adding a source does to a registry, whether its text is new, known with the same
definition, or known with another one. -/
theorem add_cases (policy : DuplicatePolicy) (r : Registry) (s : Source) :
    (r.definition? s.text = none ∧
      (r.add policy s).entries = r.entries ++ [(s.text, s.definition)] ∧
      (r.add policy s).conflicts = r.conflicts) ∨
    (r.definition? s.text = some s.definition ∧ r.add policy s = r) ∨
    (∃ known, r.definition? s.text = some known ∧ known ≠ s.definition ∧
      (r.add policy s).conflicts = r.conflicts ++ [policy.settle s known] ∧
      (r.add policy s).entries =
        match policy with
        | .firstWins => r.entries
        | .lastWins => setDefinition s.text s.definition r.entries) := by
  unfold add
  split
  case h_1 h => exact .inl ⟨h, rfl, rfl⟩
  case h_2 known h =>
    by_cases hk : known = s.definition
    · exact .inr (.inl ⟨hk ▸ h, if_pos hk⟩)
    · refine .inr (.inr ⟨known, h, hk, ?_⟩)
      rw [if_neg hk]
      cases policy <;> exact ⟨rfl, rfl⟩

theorem definition?_add (policy : DuplicatePolicy) (r : Registry) (s : Source) (t : String) :
    (r.add policy s).definition? t =
      if t = s.text then policy.choose? ((r.definition? t).toList ++ [s.definition])
      else r.definition? t := by
  rcases r.add_cases policy s with ⟨h, he, _⟩ | ⟨h, he⟩ | ⟨known, h, _, _, he⟩
  · rw [definition?, he, List.lookup_append, lookup_cons_eq_ite, ← definition?]
    split_ifs with ht
    · subst ht; rw [h]; cases policy <;> rfl
    · simp
  · rw [he]
    split_ifs with ht
    · subst ht; rw [h]; cases policy <;> rfl
    · rfl
  · rw [definition?, he]
    split_ifs with ht <;> cases policy
    · subst ht; rw [← definition?, h]; rfl
    · subst ht; rw [lookup_setDefinition, if_pos rfl, ← definition?, h]; rfl
    · rfl
    · rw [lookup_setDefinition, if_neg ht, ← definition?]

theorem definition?_of_mem {r : Registry} {e : String × String} (h : e ∈ r.entries) :
    r.definition? e.1 = some e.2 :=
  lookup_eq_some_of_mem r.nodup h

theorem mem_keys_iff {r : Registry} {t : String} :
    t ∈ r.entries.map (·.1) ↔ ∃ d, r.definition? t = some d := by
  constructor
  · intro h
    obtain ⟨e, he, rfl⟩ := List.mem_map.mp h
    exact ⟨e.2, definition?_of_mem he⟩
  · rintro ⟨d, hd⟩
    obtain ⟨before, after, he, _⟩ := List.lookup_eq_some_iff.mp hd
    simp [he]

theorem keys_add (policy : DuplicatePolicy) (r : Registry) (s : Source) :
    (r.add policy s).entries.map (·.1) =
      r.entries.map (·.1) ++ if s.text ∈ r.entries.map (·.1) then [] else [s.text] := by
  rcases r.add_cases policy s with ⟨h, he, _⟩ | ⟨h, he⟩ | ⟨known, h, _, _, he⟩
  · rw [he, if_neg (not_mem_keys_of_lookup_eq_none h), List.map_append, List.map_singleton]
  · rw [he, if_pos (mem_keys_iff.mpr ⟨_, h⟩), List.append_nil]
  · rw [he, if_pos (mem_keys_iff.mpr ⟨_, h⟩), List.append_nil]
    cases policy
    · rfl
    · exact map_fst_setDefinition ..

theorem conflicts_add (policy : DuplicatePolicy) (r : Registry) (s : Source) :
    (r.add policy s).conflicts =
      r.conflicts ++ (policy.conflict? (r.definition? s.text) s).toList := by
  rcases r.add_cases policy s with ⟨h, _, he⟩ | ⟨h, he⟩ | ⟨known, h, hk, he, _⟩
  · simp [he, h, DuplicatePolicy.conflict?]
  · simp [he, h, DuplicatePolicy.conflict?]
  · simp [he, h, hk, DuplicatePolicy.conflict?, Option.filter]

theorem ofSources_append_singleton (policy : DuplicatePolicy) (xs : List Source) (s : Source) :
    ofSources policy (xs ++ [s]) = (ofSources policy xs).add policy s := by
  simp [ofSources]

theorem definition?_ofSources (policy : DuplicatePolicy) (sources : List Source) (t : String) :
    (ofSources policy sources).definition? t = policy.choose? (definitionsOf t sources) := by
  induction sources using List.reverseRecOn with
  | nil => cases policy <;> rfl
  | append_singleton xs s ih =>
    rw [ofSources_append_singleton, definition?_add, ih, definitionsOf_append,
      definitionsOf_singleton]
    split_ifs with h₁ h₂ h₂
    · exact (policy.choose?_append_singleton _ _).symm
    · exact absurd h₁.symm h₂
    · exact absurd h₂.symm h₁
    · rw [List.append_nil]

theorem mem_sources_of_definition? {d : String}
    (h : (ofSources policy sources).definition? t = some d) : ⟨t, d⟩ ∈ sources := by
  rw [definition?_ofSources] at h
  have hm : d ∈ definitionsOf t sources := by
    cases policy with
    | firstWins => exact List.mem_of_head? h
    | lastWins => exact List.mem_of_getLast? h
  obtain ⟨s, hs, rfl⟩ := List.mem_map.mp hm
  obtain ⟨hs, ht⟩ := List.mem_filter.mp hs
  rw [← of_decide_eq_true ht]
  exact hs

theorem mem_sources_of_mem_entries {e : String × String}
    (h : e ∈ (ofSources policy sources).entries) : ⟨e.1, e.2⟩ ∈ sources :=
  mem_sources_of_definition? (definition?_of_mem h)

theorem keys_ofSources (policy : DuplicatePolicy) (sources : List Source) :
    (ofSources policy sources).entries.map (·.1) = distinctTexts sources := by
  induction sources using List.reverseRecOn with
  | nil => rfl
  | append_singleton xs s ih =>
    rw [ofSources_append_singleton, keys_add, ih, distinctTexts_append_singleton]

theorem conflicts_ofSources (policy : DuplicatePolicy) (sources : List Source) :
    (ofSources policy sources).conflicts = policy.conflictsOf sources := by
  induction sources using List.reverseRecOn with
  | nil => rfl
  | append_singleton xs s ih =>
    rw [ofSources_append_singleton, conflicts_add, ih, definition?_ofSources,
      DuplicatePolicy.conflictsOf_append_singleton]

theorem exists_definition?_of_mem (policy : DuplicatePolicy) (h : t ∈ distinctTexts sources) :
    ∃ d, (ofSources policy sources).definition? t = some d := by
  rw [← mem_keys_iff, keys_ofSources]
  exact h

theorem entries_eq_map (r : Registry) :
    r.entries = (r.entries.map (·.1)).map fun t => (t, (r.definition? t).getD "") := by
  rw [List.map_map]
  refine (List.map_id _).symm.trans (List.map_congr_left fun e he => ?_)
  rw [Function.comp_apply, definition?_of_mem he]
  rfl

theorem entries_ofSources (policy : DuplicatePolicy) (sources : List Source) :
    (ofSources policy sources).entries = (distinctTexts sources).map fun t =>
      (t, (policy.choose? (definitionsOf t sources)).getD "") := by
  rw [entries_eq_map, keys_ofSources]
  simp only [definition?_ofSources]

/-- The entries are known from their texts and from what each text leads to. -/
theorem entries_ext {r r' : Registry} (hk : r.entries.map (·.1) = r'.entries.map (·.1))
    (hd : ∀ t, r.definition? t = r'.definition? t) : r.entries = r'.entries := by
  rw [r.entries_eq_map, r'.entries_eq_map, hk]
  simp only [hd]

/-- A registry holds each text once, in the order of first occurrences, with the definition that the
policy chooses, and one conflict for each source whose text came before with another definition than
the one it is compared with. -/
theorem ofSources_eq_occurrences (policy : DuplicatePolicy) (sources : List Source) :
    (ofSources policy sources).entries.map (·.1) = distinctTexts sources ∧
    (∀ e ∈ (ofSources policy sources).entries,
      policy.choose? (definitionsOf e.1 sources) = some e.2) ∧
    (ofSources policy sources).conflicts = policy.conflictsOf sources ∧
    ∀ t, (ofSources policy sources).definition? t =
      if t ∈ sources.map (·.text) then policy.choose? (definitionsOf t sources) else none := by
  refine ⟨keys_ofSources policy sources, fun e he => ?_, conflicts_ofSources policy sources,
    fun t => ?_⟩
  · rw [← definition?_ofSources, definition?_of_mem he]
  · rw [definition?_ofSources]
    split_ifs with ht
    · rfl
    · rw [definitionsOf_eq_nil ht]; cases policy <;> rfl

end Registry

example :
    let a := Source.mk "A"
    let sources := [a "1", a "2", a "1", a "1", a "3"]
    DuplicatePolicy.firstWins.conflictsOf sources = [⟨"A", "1", "2"⟩, ⟨"A", "1", "3"⟩] ∧
      DuplicatePolicy.lastWins.conflictsOf sources =
        [⟨"A", "2", "1"⟩, ⟨"A", "1", "2"⟩, ⟨"A", "3", "1"⟩] := by
  decide

end TypedTag
