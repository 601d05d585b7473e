import Mathlib.Data.List.Nodup
import TypedTag.Proofs.GeneratedModule.RegistryLiteral
import TypedTag.Proofs.Registry.Occurrences
import TypedTag.Proofs.Settings.Names

/-! # Resolving calls of the tag function

A call takes the first overload that accepts its argument. That is the overload of the argument's
own entry, or the last one if the argument is not registered. The registry literal has a single
entry for each overload but the last.
-/

namespace TypedTag

open Text

def ParamType.accepts (argument : String) : ParamType → Bool
  | .literal text => text = argument
  | .string => true

theorem lineFeed_not_mem_freeName {preferred : String} (h : '\n' ∉ preferred.toList)
    (taken : List String) : '\n' ∉ (freeName preferred taken).toList :=
  fun hm => (mem_toList_freeName hm).elim h (by decide)

theorem lineFeed_not_mem_definitionsNamespace (settings : EmitterSettings) :
    '\n' ∉ settings.definitionsNamespace.toList :=
  lineFeed_not_mem_freeName (by decide) _

theorem literal_ne_string (text : String) : literal text ≠ "string" := by
  intro h
  have hl := congrArg (fun s => s.toList.head?) h
  simp [literalChars] at hl

namespace Overload

def resolve? (argument : String) (overloads : List Overload) : Option Overload :=
  overloads.find? (·.param.accepts argument)

variable (r : Registry) (mode : EmissionMode) (settings : EmitterSettings) (t : String)

theorem filter_accepts_all :
    (all r mode settings).filter (·.param.accepts t) =
      (r.definition? t).toList.map (fun d => ofEntry mode settings (t, d)) ++ [catchAll] := by
  have hf : ((·.param.accepts t) ∘ ofEntry mode settings) = fun e => decide (e.1 = t) := rfl
  rw [all, List.filter_append, List.filter_map, hf, filter_key_eq_lookup r.nodup,
    List.map_map]
  rfl

theorem resolve?_all :
    resolve? t (all r mode settings) =
      some (((r.definition? t).map fun d => ofEntry mode settings (t, d)).getD catchAll) := by
  rw [resolve?, ← List.head?_filter, filter_accepts_all]
  cases r.definition? t <;> rfl

theorem filter_literal_accepts_all :
    (all r mode settings).filter (fun o => o.param ≠ .string ∧ o.param.accepts t) =
      (r.definition? t).toList.map fun d => ofEntry mode settings (t, d) := by
  have hf : (fun o : Overload => decide (o.param ≠ .string ∧ o.param.accepts t)) =
      fun o => decide (o.param ≠ .string) && o.param.accepts t := by
    funext o
    simp
  rw [hf, ← List.filter_filter, filter_accepts_all, List.filter_append]
  cases r.definition? t <;> simp [ofEntry, catchAll]

theorem mem_all_iff {o : Overload} :
    o ∈ all r mode settings ↔ (∃ e ∈ r.entries, ofEntry mode settings e = o) ∨ o = catchAll := by
  simp [all]

theorem nodup_render_all : ((all r mode settings).map (·.param.render)).Nodup := by
  have hm : (all r mode settings).map (·.param.render) =
      (r.entries.map (·.1)).map literal ++ ["string"] := by
    simp [all, ofEntry, catchAll, ParamType.render]
  rw [hm, List.nodup_append]
  refine ⟨List.Nodup.map literal_injective r.nodup, by simp, fun a ha b hb => ?_⟩
  obtain ⟨text, _, rfl⟩ := List.mem_map.mp ha
  rw [List.mem_singleton.mp hb]
  exact literal_ne_string text

theorem filter_key_readMembers (r : Registry) (name : String) {space : String} (t : String)
    (hs : '\n' ∉ space.toList) (hr : ∀ e ∈ r.entries, '\n' ∉ e.2.toList) :
    (readMembers name (registryText r name space)).filter (·.1 = literal t) =
      (r.definition? t).toList.map fun d => (literal t, memberText space d) := by
  have hf : ((fun p : String × String => decide (p.1 = literal t)) ∘ fun e : String × String =>
      (literal e.1, memberText space e.2)) = fun e => decide (e.1 = t) := by
    funext e
    simp [literal_injective.eq_iff]
  rw [readMembers_registryText hs hr, List.filter_map, hf, filter_key_eq_lookup r.nodup,
    List.map_map]
  rfl

end Overload

/-- A call with a registered text is resolved to the one overload of that text, whose result is the
text's document, and any other call to the last overload. No two overloads are written with the same
parameter. In the registry literal, which a standalone module has in its text, the parameter of each
overload but the last is the key of a single entry, whose value is the definition of its text. -/
theorem dispatch_agrees_with_registry (policy : DuplicatePolicy) (sources : List Source)
    (mode : EmissionMode) (settings : EmitterSettings) :
    let r := Registry.ofSources policy sources
    let overloads := Overload.all r mode settings
    let space := settings.definitionsNamespace
    let text := registryText r settings.registryIdentifier space
    (∀ t d, r.definition? t = some d → ∃ o, Overload.resolve? t overloads = some o ∧
      o.param ≠ .string ∧
      overloads.filter (fun o => o.param ≠ .string ∧ o.param.accepts t) = [o] ∧
      o.result = match mode with
        | .standalone => .registryIndex settings.registryIdentifier t
        | .augmenting _ => .definitionRef settings.definitionsModule d) ∧
    (∀ t, r.definition? t = none → ∃ o, Overload.resolve? t overloads = some o ∧
      o = Overload.catchAll ∧ o.result = .unknown) ∧
    (overloads.map (·.param.render)).Nodup ∧
    (∃ before after, (GeneratedModule.ofSources
      { settings with policy := policy, augmentedModule := none } sources).content =
        before ++ text ++ after) ∧
    ((∀ s ∈ sources, '\n' ∉ s.definition.toList) →
      ∀ o ∈ overloads, o.param ≠ .string → ∃ t d, o.param = .literal t ∧
        r.definition? t = some d ∧
        (readMembers settings.registryIdentifier text).filter (·.1 = o.param.render) =
          [(o.param.render, memberText space d)]) := by
  intro r overloads space text
  refine ⟨fun t d h => ?_, fun t h => ?_, Overload.nodup_render_all ..,
    content_eq_registryText _ _ rfl, fun hl o ho hp => ?_⟩
  · refine ⟨Overload.ofEntry mode settings (t, d), ?_, ParamType.noConfusion, ?_, ?_⟩
    · rw [Overload.resolve?_all, h]
      rfl
    · rw [Overload.filter_literal_accepts_all, h]
      rfl
    · cases mode <;> rfl
  · refine ⟨Overload.catchAll, ?_, rfl, rfl⟩
    rw [Overload.resolve?_all, h]
    rfl
  · obtain ⟨e, he, rfl⟩ | rfl := (Overload.mem_all_iff ..).mp ho
    · have hd := Registry.definition?_of_mem he
      refine ⟨e.1, e.2, rfl, hd, ?_⟩
      have hr : ∀ e ∈ r.entries, '\n' ∉ e.2.toList := fun e he =>
        hl _ (Registry.mem_sources_of_mem_entries he)
      have hf := Overload.filter_key_readMembers r settings.registryIdentifier e.1
        (lineFeed_not_mem_definitionsNamespace settings) hr
      rw [hd] at hf
      exact hf
    · exact absurd rfl hp

/-- The second definition of a text is the one that a call with it and its entry lead to. -/
theorem dispatch_of_redefined_text :
    let sources : List Source := [⟨"{ a }", "A"⟩, ⟨"\"\n", "B"⟩, ⟨"{ a }", "C"⟩]
    let settings : EmitterSettings := {}
    let r := Registry.ofSources .lastWins sources
    let overloads := Overload.all r (.augmenting "m") settings
    let text := registryText r settings.registryIdentifier settings.definitionsNamespace
    (∃ o, Overload.resolve? "{ a }" overloads = some o ∧
      o.result = .definitionRef "./graphql" "C") ∧
    Overload.resolve? "{ b }" overloads = some Overload.catchAll ∧
    ∀ o ∈ overloads, o.param ≠ .string → ∃ t d, o.param = .literal t ∧
      r.definition? t = some d ∧
      (readMembers settings.registryIdentifier text).filter (·.1 = o.param.render) =
        [(o.param.render, memberText settings.definitionsNamespace d)] := by
  intro sources settings r overloads text
  obtain ⟨hs, hn, _, _, he⟩ :=
    dispatch_agrees_with_registry .lastWins sources (.augmenting "m") settings
  refine ⟨?_, ?_, he (by decide)⟩
  · obtain ⟨o, ho, _, _, hr⟩ := hs "{ a }" "C" (by decide)
    exact ⟨o, ho, hr⟩
  · obtain ⟨o, ho, rfl, _⟩ := hn "{ b }" (by decide)
    exact ho

end TypedTag
