import TypedTag.Proofs.Command.Load
import TypedTag.Proofs.Resolver.Run

/-! # The policy in a command

The documents of a command are resolved by a run over their files, and no run gives a text two
definitions. So a command prints, warns about and writes the same under every policy.
-/

namespace TypedTag

open Document Files Naming

variable {parse : Parser}

namespace Command

theorem flatMap_successes {ε α β : Type} (f : α → Except ε (Option β)) (xs : List α) :
    (successes (xs.map f)).flatMap Option.toList =
      xs.flatMap fun x => ((f x).toOption.getD none).toList := by
  induction xs with
  | nil => rfl
  | cons x xs ih =>
    rw [List.flatMap_cons, ← ih]
    cases h : f x with
    | error e => simp [successes, h, Except.toOption]
    | ok source => simp [successes, h, Except.toOption]

theorem resolveSources_eq_run {files : FileView} {namer : Namer} {arguments : DocumentArguments}
    {r : Resolver} (h : resolveSources files namer arguments parse = .ok r) :
    r = Resolver.run parse namer
      ((discover files arguments).1.map fun place => .file files place.path) := by
  unfold resolveSources at h
  simp only at h
  split at h
  · rw [flatMap_successes, Except.ok.injEq] at h
    rw [Resolver.run_eq, List.flatMap_map, ← h]
    rfl
  · simp at h

theorem load_eq_run {files : FileView} {arguments : DocumentArguments} {settings : Settings}
    {sources : List Source} (h : load files arguments parse = .ok (settings, sources)) :
    ∃ steps, sources = (Resolver.run parse settings.namer steps).sources := by
  obtain ⟨-, r, hr, rfl⟩ := load_eq_ok_iff.mp h
  exact ⟨_, by rw [← resolveSources_eq_run hr]⟩

theorem generateModule_cases (files : FileView) (arguments : GenerateArguments)
    (p q : Option DuplicatePolicy) :
    (∃ failure, generateModule files { arguments with policy := p } parse = .error failure ∧
      generateModule files { arguments with policy := q } parse = .error failure) ∨
    ∃ m m', generateModule files { arguments with policy := p } parse = .ok m ∧
      generateModule files { arguments with policy := q } parse = .ok m' ∧ m.Agree m' := by
  unfold generateModule
  cases h : load files arguments.documents parse with
  | error failure => exact .inl ⟨failure, rfl, rfl⟩
  | ok loaded =>
    obtain ⟨settings, sources⟩ := loaded
    obtain ⟨steps, hs⟩ := load_eq_run h
    have hf := Resolver.faithful_run parse settings.namer steps
    have hu : Unambiguous sources := hs ▸ hf.unambiguous
    refine .inr ⟨_, _, rfl, rfl, ?_⟩
    exact GeneratedModule.agree_of_unambiguous hu (applyOptions arguments settings.emitter)
      (p.getD settings.emitter.policy) (q.getD settings.emitter.policy)

theorem generate_eq_of_agree {files : Tree} {a b : GenerateArguments} {m m' : GeneratedModule}
    (ha : generateModule files.view a parse = .ok m)
    (hb : generateModule files.view b parse = .ok m') (h : m.Agree m') (ho : a.output = b.output) :
    generate files a parse = generate files b parse := by
  have hw : generateWarnings m = generateWarnings m' := by
    rw [generateWarnings, generateWarnings, h.warnings, h.registry]
  have hf : ∀ path, writeModule files path m = writeModule files path m' := by
    intro path
    rw [writeModule, writeModule, h.content]
  have ht : ∀ path, writtenMessage path m = writtenMessage path m' := by
    intro path
    unfold writtenMessage
    rw [h.mode, h.overloads, h.registry]
  unfold generate
  simp only [ha, hb, ho, hw, hf, ht, h.body]

theorem generate_policy (files : Tree) (arguments : GenerateArguments)
    (p q : Option DuplicatePolicy) :
    generate files { arguments with policy := p } parse =
      generate files { arguments with policy := q } parse := by
  rcases generateModule_cases files.view arguments p q with
    ⟨failure, hp, hq⟩ | ⟨m, m', hp, hq, h⟩
  · unfold generate
    rw [hp, hq]
  · exact generate_eq_of_agree hp hq h rfl

end Command

/-- The sources of one resolver never give a text two definitions, whatever was added and whatever
failed. So there are no conflicts among them, the policies make the same registry, and neither the
settings nor an option of the command can change what is emitted by choosing a policy. -/
theorem Resolver.run_independent_of_policy (parse : Parser) (namer : Namer)
    (steps : List Resolver.Step) :
    let sources := (Resolver.run parse namer steps).sources
    (∀ s ∈ sources, ∀ s' ∈ sources, s.text = s'.text → s.definition = s'.definition) ∧
    (∀ policy, (Registry.ofSources policy sources).conflicts = []) ∧
    Registry.ofSources .firstWins sources = Registry.ofSources .lastWins sources ∧
    (∀ (settings : EmitterSettings) p q, GeneratedModule.Agree
      (.ofSources { settings with policy := p } sources)
      (.ofSources { settings with policy := q } sources)) ∧
    ∀ files (arguments : Command.GenerateArguments) p q,
      Command.generate files { arguments with policy := p } parse =
        Command.generate files { arguments with policy := q } parse := by
  intro sources
  have hu : Unambiguous sources := (Resolver.faithful_run parse namer steps).unambiguous
  refine ⟨hu, ?_, ?_, ?_, ?_⟩
  · exact Registry.conflicts_eq_nil hu
  · exact Registry.ofSources_eq_ofSources hu .firstWins .lastWins
  · exact GeneratedModule.agree_of_unambiguous hu
  · exact Command.generate_policy

end TypedTag
