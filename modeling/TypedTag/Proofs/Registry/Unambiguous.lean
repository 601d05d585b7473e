import TypedTag.GeneratedModule
import TypedTag.Proofs.Registry.Occurrences

/-! # Sources without conflicts

Sources are unambiguous if no text comes with two definitions. Their registry has no conflicts, so
nothing is left for the policy to decide, neither in the registry nor in the module made from it.
-/

namespace TypedTag

def Unambiguous (sources : List Source) : Prop :=
  ∀ s ∈ sources, ∀ s' ∈ sources, s.text = s'.text → s.definition = s'.definition

variable {sources : List Source}

theorem Unambiguous.of_append {xs ys : List Source} (h : Unambiguous (xs ++ ys)) :
    Unambiguous xs := by
  intro s hs s' hs'
  exact h s (List.mem_append_left ys hs) s' (List.mem_append_left ys hs')

namespace Registry

/-- A source that no earlier one contradicts is added in the same way by every policy. -/
theorem add_eq_add {r : Registry} {s : Source}
    (h : ∀ known, r.definition? s.text = some known → known = s.definition)
    (p q : DuplicatePolicy) : r.add p s = r.add q s := by
  unfold add
  split
  case h_1 => rfl
  case h_2 known hk => rw [if_pos (h known hk), if_pos (h known hk)]

theorem conflicts_add_eq {r : Registry} {s : Source}
    (h : ∀ known, r.definition? s.text = some known → known = s.definition)
    (policy : DuplicatePolicy) : (r.add policy s).conflicts = r.conflicts := by
  rcases r.add_cases policy s with ⟨_, _, hc⟩ | ⟨_, hr⟩ | ⟨known, hk, hne, _⟩
  · exact hc
  · rw [hr]
  · exact absurd (h known hk) hne

theorem known_eq_of_unambiguous {policy : DuplicatePolicy} {s : Source}
    (h : Unambiguous (sources ++ [s])) (known : String)
    (hk : (ofSources policy sources).definition? s.text = some known) : known = s.definition := by
  have hm : ⟨s.text, known⟩ ∈ sources := mem_sources_of_definition? hk
  exact h ⟨s.text, known⟩ (List.mem_append_left [s] hm) s (by simp) rfl

theorem conflicts_eq_nil (h : Unambiguous sources) (policy : DuplicatePolicy) :
    (ofSources policy sources).conflicts = [] := by
  induction sources using List.reverseRecOn with
  | nil => rfl
  | append_singleton xs s ih =>
    rw [ofSources_append_singleton, conflicts_add_eq (known_eq_of_unambiguous h), ih h.of_append]

theorem ofSources_eq_ofSources (h : Unambiguous sources) (p q : DuplicatePolicy) :
    ofSources p sources = ofSources q sources := by
  induction sources using List.reverseRecOn with
  | nil => rfl
  | append_singleton xs s ih =>
    rw [ofSources_append_singleton, ofSources_append_singleton, ih h.of_append,
      add_eq_add (known_eq_of_unambiguous h) p q]

end Registry

namespace GeneratedModule

/-- Tells that two modules agree in all that is emitted, counted or warned about. -/
structure Agree (m m' : GeneratedModule) : Prop where
  content : m.content = m'.content
  body : m.body = m'.body
  mode : m.settings.mode = m'.settings.mode
  overloads : m.overloads = m'.overloads
  registry : m.registry = m'.registry
  warnings : m.warnings = m'.warnings

theorem agree_of_unambiguous (h : Unambiguous sources) (settings : EmitterSettings)
    (p q : DuplicatePolicy) :
    Agree (ofSources { settings with policy := p } sources)
      (ofSources { settings with policy := q } sources) := by
  have hr := Registry.ofSources_eq_ofSources h p q
  have hc := Registry.conflicts_eq_nil h q
  have hp : ofSources { settings with policy := p } sources =
      ⟨{ settings with policy := p }, Registry.ofSources q sources⟩ := by
    rw [ofSources, hr]
  rw [hp]
  constructor
  · rfl
  · rfl
  · rfl
  · rfl
  · rfl
  · simp only [warnings, ofSources, hc]
    rfl

end GeneratedModule

end TypedTag
