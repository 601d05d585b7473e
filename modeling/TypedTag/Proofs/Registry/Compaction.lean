import TypedTag.Proofs.GeneratedModule.Content
import TypedTag.Proofs.Registry.Permutation

/-! # Compacted sources

The entries of a registry can be read back as sources. These stand for all sources that the registry
was built from: what is added later makes the same entries and meets the same conflicts. Only the
conflicts that were recorded before are lost.
-/

namespace TypedTag

theorem distinctTexts_of_nodup {sources : List Source} (h : (sources.map (·.text)).Nodup) :
    distinctTexts sources = sources.map (·.text) := by
  induction sources using List.reverseRecOn with
  | nil => rfl
  | append_singleton xs s ih =>
    rw [List.map_append, List.nodup_append] at h
    have hs : s.text ∉ xs.map (·.text) := fun hm => h.2.2 _ hm _ (by simp) rfl
    rw [distinctTexts_append_singleton, ih h.1, if_neg hs, List.map_append, List.map_singleton]

namespace Registry

variable {policy : DuplicatePolicy} {r r' : Registry}

/-- The entries as sources, each text with the definition it leads to. -/
def toSources (r : Registry) : List Source :=
  r.entries.map fun e => ⟨e.1, e.2⟩

/-- The registry with earlier conflicts on record. -/
def precededBy (conflicts : List Conflict) (r : Registry) : Registry :=
  { r with conflicts := conflicts ++ r.conflicts }

theorem eq_of_entries_of_conflicts (he : r.entries = r'.entries)
    (hc : r.conflicts = r'.conflicts) : r = r' := by
  obtain ⟨_, _, _⟩ := r
  obtain rfl := he
  obtain rfl := hc
  rfl

/-- What was recorded earlier has no part in adding a source. -/
theorem add_precededBy (policy : DuplicatePolicy) (conflicts : List Conflict) (r : Registry)
    (s : Source) :
    (r.precededBy conflicts).add policy s = (r.add policy s).precededBy conflicts := by
  refine eq_of_entries_of_conflicts (entries_ext ?_ fun t => ?_) ?_
  · exact (keys_add policy (r.precededBy conflicts) s).trans (keys_add policy r s).symm
  · exact (definition?_add policy (r.precededBy conflicts) s t).trans
      (definition?_add policy r s t).symm
  · rw [conflicts_add, precededBy, precededBy, conflicts_add, List.append_assoc]
    rfl

theorem foldl_add_precededBy (policy : DuplicatePolicy) (conflicts : List Conflict) (r : Registry)
    (sources : List Source) :
    sources.foldl (add policy) (r.precededBy conflicts) =
      (sources.foldl (add policy) r).precededBy conflicts := by
  induction sources generalizing r with
  | nil => rfl
  | cons s sources ih => rw [List.foldl_cons, List.foldl_cons, add_precededBy, ih]

theorem map_text_toSources (r : Registry) : r.toSources.map (·.text) = r.entries.map (·.1) := by
  rw [toSources, List.map_map]
  rfl

theorem mem_toSources_iff {t d : String} : ⟨t, d⟩ ∈ r.toSources ↔ r.definition? t = some d := by
  constructor
  · intro h
    obtain ⟨e, he, h⟩ := List.mem_map.mp h
    cases h
    exact definition?_of_mem he
  · intro h
    obtain ⟨e, he, rfl⟩ := List.mem_map.mp (mem_keys_iff.mpr ⟨d, h⟩)
    obtain rfl : e.2 = d := Option.some.inj ((definition?_of_mem he).symm.trans h)
    exact List.mem_map_of_mem he

theorem unambiguous_toSources (r : Registry) : Unambiguous r.toSources := by
  rintro ⟨t, d⟩ h ⟨t', d'⟩ h' rfl
  exact Option.some.inj ((mem_toSources_iff.mp h).symm.trans (mem_toSources_iff.mp h'))

/-- A registry is rebuilt from its entries by every policy. -/
theorem ofSources_toSources (policy : DuplicatePolicy) (r : Registry) :
    ofSources policy r.toSources = { r with conflicts := [] } := by
  refine eq_of_entries_of_conflicts (entries_ext ?_ fun t => Option.ext fun d => ?_) ?_
  · rw [keys_ofSources, distinctTexts_of_nodup, map_text_toSources]
    rw [map_text_toSources]
    exact r.nodup
  · exact (definition?_eq_some_iff r.unambiguous_toSources).trans mem_toSources_iff
  · exact conflicts_eq_nil r.unambiguous_toSources policy

theorem ofSources_append_eq_foldl (policy : DuplicatePolicy) (xs ys : List Source) :
    ofSources policy (xs ++ ys) = ys.foldl (add policy) (ofSources policy xs) :=
  List.foldl_append

theorem ofSources_append (policy : DuplicatePolicy) (xs ys : List Source) :
    ofSources policy (xs ++ ys) =
      (ofSources policy ((ofSources policy xs).toSources ++ ys)).precededBy
        (ofSources policy xs).conflicts := by
  have hx : ofSources policy xs = (ofSources policy (ofSources policy xs).toSources).precededBy
      (ofSources policy xs).conflicts := by
    rw [ofSources_toSources]
    exact eq_of_entries_of_conflicts rfl (List.append_nil _).symm
  rw [ofSources_append_eq_foldl, ofSources_append_eq_foldl, ← foldl_add_precededBy, ← hx]

/-- Sources can be replaced by the entries of their registry. What comes after them makes the same
entries, and the same conflicts are added to those recorded before. The entries alone have no
conflict, and every policy makes the same registry and the same module of them. -/
theorem compacted_sources_equivalent (policy : DuplicatePolicy) (xs ys : List Source) :
    let r := ofSources policy xs
    (ofSources policy (xs ++ ys)).entries = (ofSources policy (r.toSources ++ ys)).entries ∧
    (ofSources policy (xs ++ ys)).conflicts =
      r.conflicts ++ (ofSources policy (r.toSources ++ ys)).conflicts ∧
    (∀ q, (ofSources q r.toSources).entries = r.entries ∧
      (ofSources q r.toSources).conflicts = []) ∧
    ∀ (settings : EmitterSettings) q,
      (GeneratedModule.ofSources { settings with policy := q } r.toSources).content =
        (GeneratedModule.ofSources { settings with policy := policy } xs).content := by
  intro r
  have again (q : DuplicatePolicy) : (ofSources q r.toSources).entries = r.entries := by
    rw [ofSources_toSources]
  refine ⟨?_, ?_, fun q => ⟨again q, conflicts_eq_nil r.unambiguous_toSources q⟩,
    fun settings q => ?_⟩
  · rw [ofSources_append]
    rfl
  · rw [ofSources_append]
    rfl
  · rw [(GeneratedModule.agree_of_unambiguous r.unambiguous_toSources settings q policy).content]
    exact GeneratedModule.content_congr (again policy)

end Registry

example :
    let a := Source.mk "A"
    let xs := [a "1", ⟨"B", "1"⟩, a "2"]
    (Registry.ofSources .lastWins xs).toSources = [a "2", ⟨"B", "1"⟩] ∧
      (Registry.ofSources .lastWins (xs ++ [a "1"])).conflicts =
        [⟨"A", "2", "1"⟩, ⟨"A", "1", "2"⟩] := by
  decide

end TypedTag
