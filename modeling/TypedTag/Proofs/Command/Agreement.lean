import TypedTag.Proofs.Command.Load
import TypedTag.Proofs.Json.Record

/-! # The two commands agree

Both commands load the same settings and sources, whatever they do with them. So they fail with the
same message. If they succeed, the list that one of them prints is read back as the very sources of
the module that the other prints.
-/

namespace TypedTag.Command

open Document Files

/-- The command that generates a module without an output file and the one that resolves the same
documents fail together, with one message, if the settings or the documents do not load, or succeed
together. Then the printed list reads back as sources from which the printed text is made, but for
its last line break. The settings for it are those of the settings file, or the defaults without
one, with all given options in place of theirs. -/
theorem generate_agrees_with_resolve (parse : Parser) (files : Tree)
    (arguments : GenerateArguments) :
    let generated := (generate files { arguments with output := none } parse).report
    let resolved := (resolve files arguments.documents parse).report
    (∃ failure message, load files.view arguments.documents parse = .error failure ∧
      generated = .failure message ∧ resolved = .failure message) ∨
    ∃ text list settings sources, generated = .success text ∧ resolved = .success list ∧
      (arguments.documents.config = none ∧ settings = {} ∨
        ∃ path json, arguments.documents.config = some path ∧ files.read path = .ok json ∧
          Settings.ofJson json = .ok settings) ∧
      (Json.Reader.list Source.record.read).run list = .ok sources ∧
      text ++ "\n" = (GeneratedModule.ofSources
        { settings.emitter with
          augmentedModule := arguments.augmentedModule <|> settings.emitter.augmentedModule
          policy := arguments.policy.getD settings.emitter.policy
          header := arguments.header <|> settings.emitter.header } sources).content := by
  intro generated resolved
  cases h : load files.view arguments.documents parse with
  | error failure =>
    have hm : generateModule files.view { arguments with output := none } parse =
        .error failure := by
      rw [generateModule, h]
      rfl
    have hg : generated = failure.report := by
      simp [generated, generate, hm]
    have hr : resolved = failure.report := by
      simp [resolved, resolve, h]
    exact .inl ⟨failure, "❌ " ++ failure.message, rfl, hg, hr⟩
  | ok loaded =>
    obtain ⟨settings, sources⟩ := loaded
    let m := GeneratedModule.ofSources (applyOptions arguments settings.emitter) sources
    have hm : generateModule files.view { arguments with output := none } parse = .ok m := by
      rw [generateModule, h]
      rfl
    have hg : generated = .success m.body := by
      simp [generated, generate, hm]
    have hr : resolved = .success (Source.listToJson sources).indented := by
      simp [resolved, resolve, h]
    have hs := loadSettings_eq_ok_iff.mp (load_eq_ok_iff.mp h).1
    exact .inr ⟨m.body, _, settings, sources, hg, hr, hs, Source.run_list_indented sources, rfl⟩

end TypedTag.Command
