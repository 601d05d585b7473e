import TypedTag.Proofs.Gather
import TypedTag.Proofs.Resolver.Run

/-! # What the steps of a run contribute

A step contributes the source that it makes in a resolver of its own, and nothing if it fails or
finds no named definition. A run holds the contributions one after the other, so no step changes
what another one adds, and a step that fails leaves everything as it was.
-/

namespace TypedTag

open Document Files Naming Text

inductive Document.Definition.Declares : Definition → DefinitionKind → String → Prop
  | fragment (name : String) : Declares (.fragment name) .fragment name
  | query (name : String) : Declares (.query (some name)) .query name
  | mutation (name : String) : Declares (.mutation (some name)) .mutation name
  | subscription (name : String) : Declares (.subscription (some name)) .subscription name

/-- The declared names of a document in its order, each with its kind and its symbol. -/
def Naming.Namer.Names (namer : Namer) : List Definition → List NamedDefinition → Prop :=
  Gathers fun d n => d.Declares n.kind n.name ∧ n.symbol = namer.symbol n.kind n.name

theorem Document.Definition.named?_eq_some_iff {d : Definition} {kind : DefinitionKind}
    {name : String} : d.named? = some (kind, name) ↔ d.Declares kind name := by
  constructor
  · intro h
    cases d with
    | fragment name => cases h; exact .fragment _
    | query name? => cases name? <;> cases h; exact .query _
    | mutation name? => cases name? <;> cases h; exact .mutation _
    | subscription name? => cases name? <;> cases h; exact .subscription _
    | selections => cases h
  · rintro (_ | _ | _ | _) <;> rfl

variable {parse : Parser} {namer : Namer}

theorem Naming.Namer.define?_eq_some_iff {d : Definition} {n : NamedDefinition} :
    namer.define? d = some n ↔
      d.Declares n.kind n.name ∧ n.symbol = namer.symbol n.kind n.name := by
  rw [define?, Option.map_eq_some_iff, ← Definition.named?_eq_some_iff]
  constructor
  · rintro ⟨⟨kind, name⟩, hd, rfl⟩
    exact ⟨hd, rfl⟩
  · obtain ⟨kind, name, symbol⟩ := n
    rintro ⟨hd, hs⟩
    obtain rfl : symbol = namer.symbol kind name := hs
    exact ⟨(kind, name), hd, rfl⟩

theorem Naming.Namer.names_iff {ds : List Definition} {ns : List NamedDefinition} :
    namer.Names ds ns ↔ ns = ds.filterMap namer.define? := by
  have h : namer.Names ds (ds.filterMap namer.define?) :=
    Gathers.filterMap (fun _ _ => define?_eq_some_iff) ds
  refine ⟨fun hn => hn.unique (fun d n n' hd hd' => ?_) h, fun hn => hn ▸ h⟩
  exact Option.some.inj ((define?_eq_some_iff.mpr hd).symm.trans (define?_eq_some_iff.mpr hd'))

namespace Resolver

namespace Step

def content : Step → Except ReadError String
  | .text content _ => .ok content
  | .file files path => files.read path

def path? : Step → Option String
  | .text _ path => path
  | .file _ path => some path

inductive Fails (parse : Parser) (step : Step) : ResolveError → Prop
  | read {e} : step.content = .error e → Fails parse step (.read e)
  | parse {content e} : step.content = .ok content → parse (withLineFeeds content) = .error e →
      Fails parse step (.parse step.path? e)

/-- A step contributes at most one source, which has all that its document names. -/
inductive Contributes (parse : Parser) (namer : Namer) (step : Step) : List HeldSource → Prop
  | failed {e} : step.Fails parse e → Contributes parse namer step []
  | unnamed {content ds} : step.content = .ok content → parse (withLineFeeds content) = .ok ds →
      namer.Names ds [] → Contributes parse namer step []
  | source {content ds s} : step.content = .ok content → parse (withLineFeeds content) = .ok ds →
      namer.Names ds s.definitions → s.text = withLineFeeds content → s.path = step.path? →
      Contributes parse namer step [s]

variable {step : Step}

theorem resolve_eq (parse : Parser) (namer : Namer) (step : Step) :
    step.resolve parse namer = match step.content with
      | .error e => .error (.read e)
      | .ok content => namer.resolveText content step.path? parse := by
  cases step <;> rfl

theorem resolve_eq_error_iff {e : ResolveError} :
    step.resolve parse namer = .error e ↔ step.Fails parse e := by
  rw [Step.resolve_eq]
  constructor
  · intro h
    cases hc : step.content with
    | error e' =>
      obtain rfl : .read e' = e := by simpa [hc] using h
      exact .read hc
    | ok content =>
      cases hp : parse (withLineFeeds content) with
      | error e' =>
        obtain rfl : .parse step.path? e' = e := by simpa [hc, Namer.resolveText, hp] using h
        exact .parse hc hp
      | ok ds =>
        simp only [hc, Namer.resolveText, hp] at h
        split at h <;> cases h
  · rintro (hc | ⟨hc, hp⟩)
    · rw [hc]
    · simp only [hc, Namer.resolveText, hp]

theorem forall_not_fails_iff : (∀ e, ¬ step.Fails parse e) ↔
    ∃ text ds, step.content = .ok text ∧ parse (withLineFeeds text) = .ok ds := by
  constructor
  · intro h
    cases hc : step.content with
    | error e => exact absurd (.read hc) (h _)
    | ok text =>
      cases hp : parse (withLineFeeds text) with
      | error e => exact absurd (.parse hc hp) (h _)
      | ok ds => exact ⟨text, ds, rfl, hp⟩
  · rintro ⟨text, ds, hc, hp⟩ e (hr | ⟨hr, he⟩)
    · simp [hc] at hr
    · obtain rfl := Except.ok.inj (hc.symm.trans hr)
      simp [hp] at he

theorem Contributes.found_eq {held : List HeldSource} (h : step.Contributes parse namer held) :
    step.found parse namer = held := by
  unfold found
  cases h with
  | failed hf =>
    rw [resolve_eq_error_iff.mpr hf]
    rfl
  | unnamed hc hp hn =>
    simp only [resolve_eq, hc, Namer.resolveText, hp, ← Namer.names_iff.mp hn]
    rfl
  | @source content ds s hc hp hn ht hpath =>
    obtain ⟨text, path, d, others⟩ := s
    obtain rfl : text = withLineFeeds content := ht
    obtain rfl : path = step.path? := hpath
    have hd : d :: others = ds.filterMap namer.define? := Namer.names_iff.mp hn
    simp only [resolve_eq, hc, Namer.resolveText, hp, ← hd]
    rfl

theorem contributes_found (parse : Parser) (namer : Namer) (step : Step) :
    step.Contributes parse namer (step.found parse namer) := by
  cases hc : step.content with
  | error e =>
    have hf : step.Contributes parse namer [] := .failed (.read hc)
    rwa [hf.found_eq]
  | ok content =>
    cases hp : parse (withLineFeeds content) with
    | error e =>
      have hf : step.Contributes parse namer [] := .failed (.parse hc hp)
      rwa [hf.found_eq]
    | ok ds =>
      cases hd : ds.filterMap namer.define? with
      | nil =>
        have hu : step.Contributes parse namer [] := .unnamed hc hp (Namer.names_iff.mpr hd.symm)
        rwa [hu.found_eq]
      | cons d others =>
        let s : HeldSource := ⟨withLineFeeds content, step.path?, d, others⟩
        have hs : step.Contributes parse namer [s] :=
          .source hc hp (Namer.names_iff.mpr hd.symm) rfl rfl
        rwa [hs.found_eq]

theorem contributes_iff {held : List HeldSource} :
    step.Contributes parse namer held ↔ step.found parse namer = held :=
  ⟨Contributes.found_eq, fun h => h ▸ contributes_found parse namer step⟩

theorem length_found_le (parse : Parser) (namer : Namer) (step : Step) :
    (step.found parse namer).length ≤ 1 := by
  unfold found
  cases (step.resolve parse namer).toOption.getD none with
  | none => exact Nat.zero_le _
  | some s => exact Nat.le_refl _

end Step

theorem attempt_eq_error_iff {r : Resolver} {step : Step} {e : ResolveError} :
    r.attempt parse step = .error e ↔ step.Fails parse e := by
  rw [attempt_eq_add, ← Step.resolve_eq_error_iff]
  cases step.resolve parse r.namer <;> simp [add, Except.map]

theorem advance_of_fails {r : Resolver} {step : Step} {e : ResolveError} (h : step.Fails parse e) :
    r.advance parse step = r := by
  rw [advance, attempt_eq_error_iff.mpr h]
  rfl

/-- A run holds, in the order of its steps, what each of them adds to a fresh resolver. That is
nothing or one source with all named definitions of its text. Whether and how a step fails does not
depend on the resolver it is tried on, which is then left as it was. There is one record for each
step that contributes, and it names the first named definition. -/
theorem run_holds_contributions (parse : Parser) (namer : Namer) (steps : List Step) :
    let alone := fun step : Step => ((⟨namer, []⟩ : Resolver).advance parse step).held
    let r := run parse namer steps
    r.held = steps.flatMap alone ∧
    (∀ (step : Step) held, step.Contributes parse namer held ↔ alone step = held) ∧
    (∀ (r : Resolver) (step : Step) e, r.attempt parse step = .error e ↔ step.Fails parse e) ∧
    (∀ (r : Resolver) (step : Step) e, step.Fails parse e → r.advance parse step = r) ∧
    (∀ s ∈ r.held, s.definitions[0]? = some s.primary) ∧
    Gathers (fun step record => ∃ s d ds, alone step = [s] ∧ s.definitions = d :: ds ∧
      record = ⟨s.text, d.symbol⟩) steps r.sources := by
  intro alone r
  have ha : alone = (·.found parse namer) := by
    funext step
    exact congrArg held (advance_eq parse ⟨namer, []⟩ step)
  have hr : r.held = steps.flatMap alone := by
    rw [ha]
    exact congrArg held (run_eq parse namer steps)
  have hg : Gathers (fun step s => alone step = [s]) steps r.held := by
    rw [hr, ha]
    exact .flatMap (fun step => step.length_found_le parse namer) steps
  refine ⟨hr, fun step held => ?_, fun _ _ _ => attempt_eq_error_iff, fun _ _ _ => advance_of_fails,
    fun s _ => rfl, ?_⟩
  · rw [ha]
    exact Step.contributes_iff
  · refine hg.imp (fun step s hs => ⟨s, s.primary, s.others, hs, rfl, rfl⟩) ?_
    rintro step record ⟨s, _, _, hs, _, _⟩
    exact ⟨s, hs⟩

end Resolver

end TypedTag
