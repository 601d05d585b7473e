import Mathlib.Data.Finset.Card
import Mathlib.Data.Nat.Find
import Mathlib.Order.Bounds.Basic
import TypedTag.Proofs.Settings.Names

/-! # Names with underscores appended

A search tries a name with no underscore, with one, with two and so on, and looks each up among all
taken names. The names tried are all different and only finitely many are taken, so the search ends,
and no later than after as many rounds as there are different taken names. What it ends at is the
free name. Leaving a name out once it was met makes no difference, as it is not tried again.
-/

namespace TypedTag

def suffixed (name : String) (count : Nat) : String :=
  name ++ String.ofList (List.replicate count '_')

/-- A run of the search from a name on, with the number of underscores it appends and the name it
ends at. -/
inductive Search (taken : List String) : String → Nat → String → Prop
  | free {name : String} : name ∉ taken → Search taken name 0 name
  | taken {name found : String} {count : Nat} : name ∈ taken →
      Search taken (name ++ "_") count found → Search taken name (count + 1) found

variable {preferred name found : String} {taken : List String} {k n : Nat}

section Suffixed

@[simp] theorem suffixed_zero (name : String) : suffixed name 0 = name :=
  String.append_empty

theorem suffixed_succ (name : String) (n : Nat) :
    suffixed name (n + 1) = suffixed (name ++ "_") n := by
  rw [suffixed, suffixed, String.append_assoc, List.replicate_succ, ← List.singleton_append,
    String.ofList_append]

theorem length_suffixed (name : String) (n : Nat) :
    (suffixed name n).length = name.length + n := by
  rw [suffixed, String.length_append, String.length_ofList, List.length_replicate]

theorem suffixed_injective (name : String) : Function.Injective (suffixed name) := by
  intro m n h
  have hl := congrArg String.length h
  rw [length_suffixed, length_suffixed] at hl
  exact Nat.add_left_cancel hl

/-- As many different names are taken as were tried in vain. -/
theorem le_card_of_forall_mem (h : ∀ j < k, suffixed name j ∈ taken) : k ≤ taken.toFinset.card := by
  have hs : (Finset.range k).image (suffixed name) ⊆ taken.toFinset := by
    intro tried ht
    obtain ⟨j, hj, rfl⟩ := Finset.mem_image.mp ht
    exact List.mem_toFinset.mpr (h j (Finset.mem_range.mp hj))
  have hc := Finset.card_le_card hs
  rwa [Finset.card_image_of_injective _ (suffixed_injective name), Finset.card_range] at hc

theorem exists_suffixed_not_mem (name : String) (taken : List String) :
    ∃ n, suffixed name n ∉ taken := by
  by_contra h
  push Not at h
  have hc := le_card_of_forall_mem (k := taken.toFinset.card + 1) fun j _ => h j
  omega

theorem isLeast_suffixed_iff :
    IsLeast {n | suffixed name n ∉ taken} k ↔
      suffixed name k ∉ taken ∧ ∀ j < k, suffixed name j ∈ taken := by
  refine and_congr_right fun _ => ⟨fun h j hj => ?_, fun h j hj => ?_⟩
  · by_contra hn
    exact absurd (h hn) (Nat.not_le.mpr hj)
  · by_contra hlt
    exact hj (h j (Nat.not_le.mp hlt))

theorem isLeast_suffixed_succ :
    IsLeast {n | suffixed name n ∉ taken} (k + 1) ↔
      name ∈ taken ∧ IsLeast {n | suffixed (name ++ "_") n ∉ taken} k := by
  simp only [isLeast_suffixed_iff, suffixed_succ, Nat.forall_lt_succ_left, suffixed_zero]
  tauto

end Suffixed

theorem search_iff :
    Search taken name k found ↔
      IsLeast {n | suffixed name n ∉ taken} k ∧ found = suffixed name k := by
  constructor
  · intro h
    induction h with
    | free hn => exact ⟨isLeast_suffixed_iff.mpr (by simpa using hn), (suffixed_zero _).symm⟩
    | taken hm _ ih =>
      exact ⟨isLeast_suffixed_succ.mpr ⟨hm, ih.1⟩, ih.2.trans (suffixed_succ _ _).symm⟩
  · rintro ⟨h, rfl⟩
    induction k generalizing name with
    | zero =>
      rw [suffixed_zero]
      exact .free (by simpa using h.1)
    | succ k ih =>
      obtain ⟨hm, hk⟩ := isLeast_suffixed_succ.mp h
      rw [suffixed_succ]
      exact .taken hm (ih hk)

/-- A name that was met need not be looked up any more, as all further names are longer. -/
theorem suffixed_mem_erase_iff :
    suffixed (preferred ++ "_") n ∈ taken.erase preferred ↔
      suffixed (preferred ++ "_") n ∈ taken := by
  have hne : suffixed preferred (n + 1) ≠ suffixed preferred 0 :=
    (suffixed_injective preferred).ne (Nat.succ_ne_zero n)
  rw [suffixed_succ, suffixed_zero] at hne
  exact List.mem_erase_of_ne hne

theorem freeName_eq_suffixed (h : IsLeast {n | suffixed preferred n ∉ taken} k) :
    freeName preferred taken = suffixed preferred k := by
  induction k generalizing preferred taken with
  | zero => rw [suffixed_zero, freeName_of_not_mem (by simpa using h.1)]
  | succ k ih =>
    obtain ⟨hm, hk⟩ := isLeast_suffixed_succ.mp h
    rw [freeName, if_pos hm, suffixed_succ]
    apply ih
    simpa only [suffixed_mem_erase_iff] using hk

theorem exists_isLeast_suffixed (preferred : String) (taken : List String) :
    ∃ k, IsLeast {n | suffixed preferred n ∉ taken} k ∧
      freeName preferred taken = suffixed preferred k ∧ k ≤ taken.toFinset.card := by
  have he : ∃ n, suffixed preferred n ∉ taken := exists_suffixed_not_mem preferred taken
  have hk : IsLeast {n | suffixed preferred n ∉ taken} (Nat.find he) :=
    ⟨Nat.find_spec he, fun _ hn => Nat.find_min' he hn⟩
  exact ⟨Nat.find he, hk, freeName_eq_suffixed hk,
    le_card_of_forall_mem (isLeast_suffixed_iff.mp hk).2⟩

namespace EmitterSettings

variable (settings : EmitterSettings)

theorem registryIdentifier_eq :
    settings.registryIdentifier =
      if settings.registryName = settings.tagFunction then settings.registryName ++ "_"
      else settings.registryName := by
  rw [registryIdentifier, freeName]
  simp only [List.mem_singleton]
  split
  case isTrue h => rw [h, List.erase_cons_head, freeName_of_not_mem List.not_mem_nil]
  case isFalse => rfl

theorem exists_definitionsNamespace_eq :
    ∃ k ≤ 2, settings.definitionsNamespace = suffixed "graphql" k := by
  obtain ⟨k, -, he, hk⟩ :=
    exists_isLeast_suffixed "graphql" [settings.tagFunction, settings.registryIdentifier]
  exact ⟨k, hk.trans (List.toFinset_card_le _), he⟩

theorem nodup_names :
    [settings.registryIdentifier, settings.definitionsNamespace, settings.tagFunction].Nodup := by
  have hr := settings.registryIdentifier_ne_tagFunction
  have hd := settings.definitionsNamespace_ne_tagFunction
  have hn := settings.definitionsNamespace_ne_registryIdentifier
  simp [hr, hd, hn.symm]

end EmitterSettings

/-- The search for a free name always ends, after a number of rounds that is settled beforehand: the
least number of underscores that make the preferred name differ from all taken ones, which is no
more than there are different taken names. So the registry, the namespace and the tag function of a
module have three names, the registry the one it was given unless the tag function has it, and the
namespace at most two underscores. -/
theorem freeName_shortest :
    (∀ preferred taken, ∃ k,
      (∀ n found, Search taken preferred n found ↔
        n = k ∧ found = freeName preferred taken) ∧
      freeName preferred taken = suffixed preferred k ∧
      IsLeast {n | suffixed preferred n ∉ taken} k ∧
      k ≤ taken.toFinset.card) ∧
    ∀ settings : EmitterSettings,
      [settings.registryIdentifier, settings.definitionsNamespace, settings.tagFunction].Nodup ∧
      (settings.registryIdentifier =
        if settings.registryName = settings.tagFunction then settings.registryName ++ "_"
        else settings.registryName) ∧
      ∃ k ≤ 2, settings.definitionsNamespace = suffixed "graphql" k := by
  refine ⟨fun preferred taken => ?_, fun settings => ⟨settings.nodup_names,
    settings.registryIdentifier_eq, settings.exists_definitionsNamespace_eq⟩⟩
  obtain ⟨k, hk, he, hc⟩ := exists_isLeast_suffixed preferred taken
  refine ⟨k, fun n found => ?_, he, hk, hc⟩
  rw [search_iff, he]
  constructor
  · rintro ⟨hn, rfl⟩
    obtain rfl := hn.unique hk
    exact ⟨rfl, rfl⟩
  · rintro ⟨rfl, rfl⟩
    exact ⟨hk, rfl⟩

end TypedTag
