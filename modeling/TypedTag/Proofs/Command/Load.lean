import TypedTag.Command.Run
import TypedTag.Proofs.Outcome

/-! # Loading settings and documents

Loading succeeds with the settings and with the sources of all documents, and fails as the first of
the two that fails. A module is made whenever loading succeeds.
-/

namespace TypedTag.Command

open Document Files

variable {parse : Parser} {files : FileView} {arguments : DocumentArguments} {settings : Settings}
  {sources : List Source} {failure : Failure}

theorem loadSettings_eq_ok_iff {config : Option String} :
    loadSettings files config = .ok settings ↔ config = none ∧ settings = {} ∨
      ∃ path text, config = some path ∧ files.read path = .ok text ∧
        Settings.ofJson text = .ok settings := by
  cases config with
  | none => simp [loadSettings, eq_comm]
  | some path =>
    rw [loadSettings]
    cases hr : files.read path with
    | error e => simp [hr]
    | ok text => simp [hr, mapError_eq_ok_iff]

theorem load_eq_ok_iff : load files arguments parse = .ok (settings, sources) ↔
    loadSettings files arguments.config = .ok settings ∧
      ∃ r, resolveSources files settings.namer arguments parse = .ok r ∧ r.sources = sources := by
  simp only [load, bind_eq_ok_iff, mapError_eq_ok_iff]
  constructor
  · rintro ⟨settings, hs, r, hr, ⟨⟩⟩
    exact ⟨hs, r, hr, rfl⟩
  · rintro ⟨hs, r, hr, rfl⟩
    exact ⟨settings, hs, r, hr, rfl⟩

theorem load_eq_error_iff : load files arguments parse = .error failure ↔
    loadSettings files arguments.config = .error failure ∨
      ∃ settings errors, loadSettings files arguments.config = .ok settings ∧
        resolveSources files settings.namer arguments parse = .error errors ∧
        .documents errors = failure := by
  simp only [load, bind_eq_error_iff, mapError_eq_error_iff]
  refine or_congr_right (exists_congr fun settings => ?_)
  constructor
  · rintro ⟨hs, ⟨errors, hr, rfl⟩ | ⟨r, -, ⟨⟩⟩⟩
    exact ⟨errors, hs, hr, rfl⟩
  · rintro ⟨errors, hs, hr, rfl⟩
    exact ⟨hs, .inl ⟨errors, hr, rfl⟩⟩

theorem generateModule_eq_error_iff {arguments : GenerateArguments} :
    generateModule files arguments parse = .error failure ↔
      load files arguments.documents parse = .error failure := by
  rw [generateModule, bind_eq_error_iff]
  exact or_iff_left fun ⟨_, _, h⟩ => nomatch h

end TypedTag.Command
