import TypedTag.Proofs.Naming.Recasing
import TypedTag.Proofs.Naming.Underscores

/-! # Names with one symbol

A conversion keeps the letters and digits of a name in their order and changes at most their case
and the underscores. The two suffixes end in different letters. So definitions that share a symbol
are of one sort, and their names differ in no more than the convention gives away.
-/

namespace TypedTag.Naming

open Document Text

/-- What a convention leaves of a name, apart from the spelling it gives it. -/
def Namer.key (namer : Namer) (name : String) : List Char :=
  match namer.convention, namer.dropUnderscores with
  | .keep, _ => name.toList
  | .pascalCase, false => name.toList.map Char.toLower
  | .pascalCase, true => (withoutUnderscores name.toList).map Char.toLower

section Letters

variable {prev : Option Char} {cs : List Char}

theorem map_toLower_recase (h : ∀ c ∈ cs, c.toNat < 0x80) :
    (recase prev cs).map Char.toLower = cs.map Char.toLower := by
  induction cs generalizing prev with
  | nil => rfl
  | cons c cs ih =>
    rw [List.forall_mem_cons] at h
    rw [recase, List.map_cons, List.map_cons, ih h.2]
    congr 1
    split
    · exact (toLower_of_form h.1).2
    · exact (toLower_of_form h.1).1

theorem map_toLower_capitalize (h : ∀ c ∈ cs, c.toNat < 0x80) :
    (capitalize cs).map Char.toLower = cs.map Char.toLower := by
  cases cs with
  | nil => rfl
  | cons c cs =>
    rw [capitalize_cons h, List.map_cons, List.map_cons, List.map_map]
    rw [List.forall_mem_cons] at h
    congr 1
    · exact (toLower_of_form h.1).2
    · exact List.map_congr_left fun d hd => (toLower_of_form (h.2 d hd)).1

theorem map_toLower_flatMap_capitalize_words (h : ∀ c ∈ cs, isNamePart c) :
    ((words cs).flatMap capitalize).map Char.toLower =
      (withoutUnderscores cs).map Char.toLower := by
  have hw : ∀ w ∈ words cs, (capitalize w).map Char.toLower = w.map Char.toLower := by
    intro w hw
    apply map_toLower_capitalize
    intro c hc
    exact toNat_lt_of_isNamePart (h c (mem_of_mem_words hw hc))
  have hf : cs.filter isAlphanumeric = withoutUnderscores cs := by
    apply List.filter_congr
    intro c hc
    exact isAlphanumeric_of_isNamePart (h c hc)
  rw [List.map_flatMap, List.flatMap_congr hw, List.flatMap_def, ← List.map_flatten, flatten_words,
    hf]

end Letters

section Suffixes

variable {k₁ k₂ : DefinitionKind}

theorem getLast?_suffix (kind : DefinitionKind) :
    kind.suffix.toList.getLast? = some (if kind = .fragment then 'c' else 't') := by
  cases kind <;> decide

theorem fragment_iff_of_append_suffix {s₁ s₂ : String} (h : s₁ ++ k₁.suffix = s₂ ++ k₂.suffix) :
    k₁ = .fragment ↔ k₂ = .fragment := by
  have hl := congrArg (fun s => s.toList.getLast?) h
  simp only [String.toList_append, List.getLast?_append, getLast?_suffix, Option.some_or,
    Option.some.injEq] at hl
  by_cases h₁ : k₁ = .fragment
  · by_cases h₂ : k₂ = .fragment
    · exact iff_of_true h₁ h₂
    · simp [h₁, h₂] at hl
  · by_cases h₂ : k₂ = .fragment
    · simp [h₁, h₂] at hl
    · exact iff_of_false h₁ h₂

theorem suffix_eq_of_fragment_iff (h : k₁ = .fragment ↔ k₂ = .fragment) :
    k₁.suffix = k₂.suffix := by
  cases k₁ <;> cases k₂ <;> simp_all [DefinitionKind.suffix]

end Suffixes

namespace Namer

variable (namer : Namer) {k₁ k₂ : DefinitionKind} {name n₁ n₂ : String}

theorem key_apply (h : isName name) :
    namer.key (namer.convention.apply namer.dropUnderscores name) = namer.key name := by
  have hp := isNamePart_of_isName h
  obtain ⟨convention, dropUnderscores⟩ := namer
  cases convention with
  | keep => rfl
  | pascalCase =>
    cases dropUnderscores with
    | false =>
      change (Convention.pascalCase.apply false name).toList.map Char.toLower = _
      rw [toList_apply_eq_recase hp,
        map_toLower_recase fun c hc => toNat_lt_of_isNamePart (hp c hc)]
      rfl
    | true =>
      change (withoutUnderscores (Convention.pascalCase.apply true name).toList).map
        Char.toLower = _
      rw [withoutUnderscores_apply, map_toLower_flatMap_capitalize_words hp]
      rfl

theorem key_eq_of_symbol_eq (h₁ : isName n₁) (h₂ : isName n₂)
    (h : namer.symbol k₁ n₁ = namer.symbol k₂ n₂) : namer.key n₁ = namer.key n₂ := by
  have hs := suffix_eq_of_fragment_iff (fragment_iff_of_append_suffix h)
  rw [symbol, symbol, hs, String.append_left_inj] at h
  rw [← namer.key_apply h₁, h, namer.key_apply h₂]

/-- Definitions with the same symbol are all fragments or all operations, and their names are the
same as far as the convention tells names apart. -/
theorem names_agree_of_symbol_eq (h₁ : isName n₁) (h₂ : isName n₂)
    (h : namer.symbol k₁ n₁ = namer.symbol k₂ n₂) :
    (k₁ = .fragment ↔ k₂ = .fragment) ∧
      (namer.convention = .keep → n₁ = n₂) ∧
      (namer.convention = .pascalCase → namer.dropUnderscores = false →
        n₁.toList.map Char.toLower = n₂.toList.map Char.toLower) ∧
      (namer.convention = .pascalCase → namer.dropUnderscores = true →
        (withoutUnderscores n₁.toList).map Char.toLower =
          (withoutUnderscores n₂.toList).map Char.toLower) := by
  have hk := namer.key_eq_of_symbol_eq h₁ h₂ h
  refine ⟨fragment_iff_of_append_suffix h, ?_, ?_, ?_⟩
  · intro hc
    simp only [key, hc] at hk
    exact String.toList_inj.mp hk
  · intro hc hd
    simpa only [key, hc, hd] using hk
  · intro hc hd
    simpa only [key, hc, hd] using hk

/-- A query and a mutation share a symbol if their names differ in case and underscores. -/
theorem names_agree_of_shared_symbol :
    isName "get_user" ∧ isName "getUser" ∧
      ({ dropUnderscores := true } : Namer).symbol .query "get_user" =
        ({ dropUnderscores := true } : Namer).symbol .mutation "getUser" ∧
      (withoutUnderscores "get_user".toList).map Char.toLower =
        (withoutUnderscores "getUser".toList).map Char.toLower := by
  have h₁ : isName "get_user" := by decide
  have h₂ : isName "getUser" := by decide
  have hs : ({ dropUnderscores := true } : Namer).symbol .query "get_user" =
      ({ dropUnderscores := true } : Namer).symbol .mutation "getUser" := by decide
  exact ⟨h₁, h₂, hs, (names_agree_of_symbol_eq _ h₁ h₂ hs).2.2.2 rfl rfl⟩

end Namer

end TypedTag.Naming
