import TypedTag.Settings

/-! # Free names

The name found for a preferred one is that name with underscores behind it, and none of the taken
names. A name that does not end in an underscore is only found if it was preferred. So the registry,
the namespace and the tag function of a module never share a name.
-/

namespace TypedTag

variable {preferred name : String} {taken : List String}

theorem freeName_of_not_mem (h : preferred ∉ taken) : freeName preferred taken = preferred := by
  rw [freeName, if_neg h]

theorem exists_toList_freeName (preferred : String) (taken : List String) :
    ∃ n, (freeName preferred taken).toList = preferred.toList ++ List.replicate n '_' := by
  fun_induction freeName preferred taken with
  | case1 preferred taken _ ih =>
    obtain ⟨n, hn⟩ := ih
    exact ⟨n + 1, by simpa [List.replicate_succ] using hn⟩
  | case2 => exact ⟨0, by simp⟩

theorem mem_toList_freeName {c : Char} (h : c ∈ (freeName preferred taken).toList) :
    c ∈ preferred.toList ∨ c = '_' := by
  obtain ⟨n, hn⟩ := exists_toList_freeName preferred taken
  rw [hn, List.mem_append] at h
  exact h.imp_right List.eq_of_mem_replicate

theorem freeName_not_mem (preferred : String) (taken : List String) :
    freeName preferred taken ∉ taken := by
  fun_induction freeName preferred taken with
  | case1 preferred taken _ ih =>
    intro hm
    -- The name is longer than the taken one that was left out of the search for it.
    have hne : freeName (preferred ++ "_") (taken.erase preferred) ≠ preferred := by
      intro he
      obtain ⟨n, hn⟩ := exists_toList_freeName (preferred ++ "_") (taken.erase preferred)
      have hl := congrArg List.length (he ▸ hn)
      simp only [String.toList_append, List.length_append] at hl
      have hu : "_".toList.length = 1 := rfl
      omega
    exact ih ((List.mem_erase_of_ne hne).mpr hm)
  | case2 _ _ h => exact h

theorem freeName_eq_iff (hn : name.toList.getLast? ≠ some '_') :
    freeName preferred taken = name ↔ preferred = name ∧ name ∉ taken := by
  constructor
  · intro h
    obtain ⟨n, hl⟩ := exists_toList_freeName preferred taken
    rw [h] at hl
    cases n with
    | zero =>
      rw [List.replicate_zero, List.append_nil, String.toList_inj] at hl
      exact ⟨hl.symm, h ▸ freeName_not_mem preferred taken⟩
    | succ n => simp [hl, List.replicate_succ'] at hn
  · rintro ⟨rfl, h⟩
    exact freeName_of_not_mem h

namespace EmitterSettings

variable (settings : EmitterSettings)

theorem registryIdentifier_ne_tagFunction : settings.registryIdentifier ≠ settings.tagFunction :=
  fun h => freeName_not_mem settings.registryName [settings.tagFunction] (by
    rw [← registryIdentifier, h]
    exact List.mem_singleton_self _)

theorem definitionsNamespace_ne_tagFunction :
    settings.definitionsNamespace ≠ settings.tagFunction :=
  fun h => freeName_not_mem "graphql" [settings.tagFunction, settings.registryIdentifier] (by
    rw [← definitionsNamespace, h]
    exact List.mem_cons_self)

theorem definitionsNamespace_ne_registryIdentifier :
    settings.definitionsNamespace ≠ settings.registryIdentifier :=
  fun h => freeName_not_mem "graphql" [settings.tagFunction, settings.registryIdentifier] (by
    rw [← definitionsNamespace, h]
    exact List.mem_cons_of_mem _ (List.mem_singleton_self _))

theorem definitionsNamespace_ne (hn : name.toList.getLast? ≠ some '_') (hg : name ≠ "graphql") :
    settings.definitionsNamespace ≠ name :=
  fun h => hg ((freeName_eq_iff hn).mp h).1.symm

theorem registryIdentifier_eq_iff (hn : name.toList.getLast? ≠ some '_') :
    settings.registryIdentifier = name ↔
      settings.registryName = name ∧ settings.tagFunction ≠ name := by
  rw [registryIdentifier, freeName_eq_iff hn, List.mem_singleton, eq_comm (a := name)]

end EmitterSettings

end TypedTag
