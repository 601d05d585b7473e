import TypedTag.Proofs.Command.Load
import TypedTag.Proofs.Files.Walk
import TypedTag.Proofs.Files.Write

/-! # What a run leaves behind

A run that generates a module touches no file before its settings and its documents are loaded. Then
it prints the module or writes it. A file that is written reads as what is printed, and all other
files stay as they were, also if a document or a searched directory lies where the module goes. A
device takes the module and gives none of it back.
-/

namespace TypedTag.Command

open Document Files

inductive Ends (parse : Parser) (files : Tree) (arguments : GenerateArguments) : Outcome → Prop
  | stopped {failure : Failure} : generateModule files.view arguments parse = .error failure →
      Ends parse files arguments ⟨failure.report, [], files⟩
  | printed {m} : generateModule files.view arguments parse = .ok m → arguments.output = none →
      Ends parse files arguments ⟨.success m.body, generateWarnings m, files⟩
  | blocked {m path made} {failure : Failure} :
      generateModule files.view arguments parse = .ok m → arguments.output = some path →
      makeParents files path = (made, some failure) →
      Ends parse files arguments ⟨failure.report, generateWarnings m, made⟩
  | unwritten {m path made after fault} : generateModule files.view arguments parse = .ok m →
      arguments.output = some path → makeParents files path = (made, none) →
      made.write path m.content.toUTF8 = (after, some fault) →
      Ends parse files arguments ⟨(Failure.write path fault).report, generateWarnings m, after⟩
  | written {m path made after} : generateModule files.view arguments parse = .ok m →
      arguments.output = some path → makeParents files path = (made, none) →
      made.write path m.content.toUTF8 = (after, none) →
      Ends parse files arguments ⟨.success (writtenMessage path m), generateWarnings m, after⟩

variable {parse : Parser} {files : Tree} {arguments : GenerateArguments} {outcome : Outcome}

theorem grows_makeParents (files : Tree) (path : String) :
    files.Grows (makeParents files path).1 := by
  unfold makeParents
  cases Path.parent? path with
  | none => exact .refl files
  | some parent =>
    by_cases he : parent.isEmpty
    · simp only [if_pos he]
      exact .refl files
    · simp only [if_neg he]
      exact files.grows_makeDirectories parent

theorem ends_generate (parse : Parser) (files : Tree) (arguments : GenerateArguments) :
    Ends parse files arguments (generate files arguments parse) := by
  unfold generate
  cases hm : generateModule files.view arguments parse with
  | error failure => exact .stopped hm
  | ok m =>
    cases ho : arguments.output with
    | none => exact .printed hm ho
    | some path =>
      unfold writeModule
      match hp : makeParents files path with
      | (made, some failure) =>
        simp only [hp]
        exact .blocked hm ho hp
      | (made, none) =>
        match hw : made.write path m.content.toUTF8 with
        | (after, some fault) =>
          simp only [hp, hw]
          exact .unwritten hm ho hp hw
        | (after, none) =>
          simp only [hp, hw]
          exact .written hm ho hp hw

theorem Ends.files_eq (h : Ends parse files arguments outcome)
    (hn : arguments.output = none ∨
      ∃ failure, generateModule files.view arguments parse = .error failure) :
    outcome.files = files := by
  cases h with
  | stopped | printed => rfl
  | blocked hm ho | unwritten hm ho | written hm ho =>
    rcases hn with hn | ⟨failure, hf⟩
    · rw [ho] at hn
      cases hn
    · rw [hm] at hf
      cases hf

/-- Where the module is written, directories are made first, which is all if nothing can be written
there. -/
theorem reached_of_write {path : String} {m : GeneratedModule} {made after : Tree}
    {fault : Option Fault} (hp : makeParents files path = (made, none))
    (hw : made.write path m.content.toUTF8 = (after, fault)) :
    fault.isSome ∧ files.Grows after ∨
    ∃ place octets, after.locate .target path = .ok place ∧ files.Reached after place octets ∧
      (fault = none → octets = m.content.toUTF8) ∧ ∃ n, octets = m.content.toUTF8.extract 0 n := by
  have hg : files.Grows made := by simpa only [hp] using grows_makeParents files path
  rcases made.write_cases path m.content.toUTF8 with
    ⟨fault', h⟩ | ⟨after', place, octets, fault', h, hl, hr, hall, hpart⟩
  · cases hw.symm.trans h
    exact .inl ⟨rfl, hg⟩
  · cases hw.symm.trans h
    exact .inr ⟨place, octets, hr.locate hl, hr.of_grows hg, hall, hpart⟩

theorem Ends.of_failure (h : Ends parse files arguments outcome) {message : String}
    (hr : outcome.report = .failure message) :
    files.Grows outcome.files ∨ ∃ m path place n,
      generateModule files.view arguments parse = .ok m ∧ arguments.output = some path ∧
      outcome.files.locate .target path = .ok place ∧
      files.Reached outcome.files place (m.content.toUTF8.extract 0 n) := by
  cases h with
  | stopped => exact .inl (.refl files)
  | printed | written => cases hr
  | @blocked _ path _ _ hm ho hp =>
    exact .inl (by simpa only [hp] using grows_makeParents files path)
  | unwritten hm ho hp hw =>
    rcases reached_of_write hp hw with ⟨-, hg⟩ | ⟨place, octets, hl, hreached, -, n, rfl⟩
    · exact .inl hg
    · exact .inr ⟨_, _, place, n, hm, ho, hl, hreached⟩

theorem Ends.of_success (h : Ends parse files arguments outcome) {path message : String}
    (ho : arguments.output = some path) (hr : outcome.report = .success message) :
    ∃ m place, generateModule files.view arguments parse = .ok m ∧
      outcome.files.locate .target path = .ok place ∧
      files.Reached outcome.files place m.content.toUTF8 := by
  cases h with
  | stopped | blocked | unwritten => cases hr
  | printed _ hn =>
    rw [hn] at ho
    cases ho
  | written hm ho' hp hw =>
    cases ho'.symm.trans ho
    rcases reached_of_write hp hw with ⟨hf, -⟩ | ⟨place, octets, hl, hreached, hall, -⟩
    · cases hf
    · exact ⟨_, place, hm, hl, hall rfl ▸ hreached⟩

theorem output?_of_generateModule {m : GeneratedModule}
    (h : generateModule files.view arguments parse = .ok m) :
    (generate files { arguments with output := none } parse).report.output? = some m.body := by
  have h' : generateModule files.view { arguments with output := none } parse = .ok m := h
  simp only [generate, h']
  rfl

/-- A run changes nothing if its settings or its documents do not load, or if it only prints. If it
writes the module to a path, then the path leads to a file or a device. The file says, and reads as,
the text that is printed without the path, line break included, and no other file has changed. The
device was sent that text, and no file has changed. A run that fails has made directories at most,
or it wrote a front part of the text there and of it only. Every run has one text to print, and the
exit code tells where it goes. -/
theorem generate_writes_module_only (parse : Parser) (files : Tree)
    (arguments : GenerateArguments) :
    let outcome := generate files arguments parse
    let printed := (generate files { arguments with output := none } parse).report.output?
    (arguments.output = none ∨
        (∃ failure, loadSettings files.view arguments.documents.config = .error failure) ∨
        (∃ settings errors, loadSettings files.view arguments.documents.config = .ok settings ∧
          resolveSources files.view settings.namer arguments.documents parse = .error errors) →
      outcome.files = files) ∧
    (∀ path message, arguments.output = some path → outcome.report = .success message →
      ∃ text place, printed = some text ∧ outcome.files.locate .target path = .ok place ∧
        ((∃ number, files.Wrote outcome.files place number (text ++ "\n").toUTF8 ∧
            outcome.files.content? path = some (text ++ "\n").toUTF8 ∧
            (files.refusal .read place = none → outcome.files.read path = .ok (text ++ "\n")) ∧
            ∀ other old, files.content? other = some old → outcome.files.content? other = some old ∨
              ∃ found, files.file? other = some (found, number)) ∨
          files.Sent outcome.files place (text ++ "\n").toUTF8 ∧
            ∀ other old, files.content? other = some old →
              outcome.files.content? other = some old)) ∧
    (∀ message, outcome.report = .failure message → files.Grows outcome.files ∨
      ∃ text path place n, printed = some text ∧ arguments.output = some path ∧
        outcome.files.locate .target path = .ok place ∧
        files.Reached outcome.files place ((text ++ "\n").toUTF8.extract 0 n)) ∧
    (outcome.report.output?.isSome ↔ outcome.report.errorOutput? = none) ∧
    (outcome.report.exitCode = 0 ↔ outcome.report.output?.isSome) := by
  intro outcome printed
  have he : Ends parse files arguments outcome := ends_generate parse files arguments
  refine ⟨fun hn => he.files_eq ?_, fun path message ho hr => ?_, fun message hr => ?_, ?_, ?_⟩
  · rcases hn with hn | ⟨failure, hs⟩ | ⟨settings, errors, hs, hr⟩
    · exact .inl hn
    · exact .inr ⟨_, generateModule_eq_error_iff.mpr (load_eq_error_iff.mpr (.inl hs))⟩
    · have hl : load files.view arguments.documents parse = .error (.documents errors) :=
        load_eq_error_iff.mpr (.inr ⟨settings, errors, hs, hr, rfl⟩)
      exact .inr ⟨_, generateModule_eq_error_iff.mpr hl⟩
  · obtain ⟨m, place, hm, hl, hreached⟩ := he.of_success ho hr
    refine ⟨m.body, place, output?_of_generateModule hm, hl, ?_⟩
    cases hreached with
    | @file number hw =>
      refine .inl ⟨number, hw, hw.content?_eq_some hl, fun hn => ?_, fun _ _ => hw.content?⟩
      rw [← hw.conditions] at hn
      exact Tree.read_eq_ok hl hw.written hw.content hn
    | device hd => exact .inr ⟨hd, fun _ _ => hd.content?⟩
  · rcases he.of_failure hr with hg | ⟨m, path, place, n, hm, ho, hl, hreached⟩
    · exact .inl hg
    · exact .inr ⟨m.body, path, place, n, output?_of_generateModule hm, ho, hl, hreached⟩
  · cases outcome.report <;> simp [Report.output?, Report.errorOutput?]
  · cases outcome.report <;> simp [Report.output?, Report.exitCode]

/-- There is nothing but a device that takes everything, and this was sent to it. -/
def onlyDevice (sent : List (Location × ByteArray)) : Tree where
  nodes := [(["dev"], .directory), (["dev", "null"], .device)]
  sent := sent

section OnlyDevice

variable {sent : List (Location × ByteArray)}

theorem enters_onlyDevice {aim : Aim} (ha : aim ≠ .location) {here : Location} {name : String}
    {names : List String} (hd : (onlyDevice sent).node? here = some .directory)
    (hp : name = "dev" ∨ name = "null") (hn : names ≠ [""]) :
    (onlyDevice sent).Enters aim here name names := by
  have hf : (onlyDevice sent).lookupFault? here name = none := ite_self none
  rcases hp with rfl | rfl
  · exact Tree.enters_of_plain hd hf (by decide) (by decide) ha hn
  · exact Tree.enters_of_plain hd hf (by decide) (by decide) ha hn

theorem locate_onlyDevice {aim : Aim} (ha : aim ≠ .location) :
    (onlyDevice sent).locate aim "/dev/null" = .ok ["dev", "null"] := by
  have hs : Path.steps "/dev/null" = ["dev", "null"] := by decide
  rw [Tree.locate_eq_ok_iff, hs]
  exact ⟨by decide, .down (enters_onlyDevice ha rfl (.inl rfl) (by decide)) rfl (by simp) <|
    .down (enters_onlyDevice ha rfl (.inr rfl) (by decide)) rfl (by simp) .here⟩

theorem isDirectory_onlyDevice : (onlyDevice sent).isDirectory "/dev" = true := by
  have hs : Path.steps "/dev" = ["dev"] := by decide
  have hl : (onlyDevice sent).locate .target "/dev" = .ok ["dev"] := by
    rw [Tree.locate_eq_ok_iff, hs]
    exact ⟨by decide,
      .down (enters_onlyDevice (by decide) rfl (.inl rfl) (by decide)) rfl (by simp) .here⟩
  have hf : (onlyDevice sent).find .target "/dev" = .ok (["dev"], .directory) :=
    Tree.find_eq_ok_iff.mpr ⟨hl, rfl⟩
  rw [Tree.isDirectory, hf]

theorem makeDirectory_onlyDevice :
    (onlyDevice sent).makeDirectory "/dev" = .error .alreadyExists := by
  have hl : (onlyDevice sent).follow maxLinks .target [] [""] = .ok [] :=
    Tree.follow_of_leads (.stay ⟨rfl, rfl⟩ (.inl rfl) .here)
  have hs : Path.names "/dev" = ["dev"] := by decide
  have hc : checkPath "/dev" = .ok () := by decide
  have ha : (onlyDevice sent).start "/dev" = [] := if_pos (by decide)
  rw [Tree.makeDirectory, Tree.newPlace, hc, hs, ha]
  simp only [List.getLast?_singleton, List.dropLast_singleton, List.nil_append, hl]
  rfl

theorem makeParents_onlyDevice :
    makeParents (onlyDevice sent) "/dev/null" = (onlyDevice sent, none) := by
  have ha : Path.ancestors "/dev" = ["/dev", "/"] := by decide +kernel
  have hp : Path.parent? "/dev/null" = some "/dev" := by decide
  rw [makeParents, hp]
  simp [Tree.makeDirectories, ha, Tree.makeAll, makeDirectory_onlyDevice, isDirectory_onlyDevice]

theorem write_onlyDevice (octets : ByteArray) :
    (onlyDevice []).write "/dev/null" octets =
      (onlyDevice [(["dev", "null"], octets)], none) := by
  have hc : (onlyDevice []).create "/dev/null" = .ok (onlyDevice [], ["dev", "null"]) := by
    rw [Tree.create, locate_onlyDevice (by decide)]
    rfl
  rw [Tree.write, hc]
  rfl

theorem load_onlyDevice (extensions : List String) (parse : Parser) :
    load (onlyDevice sent).view ⟨none, extensions, ["/dev/null"]⟩ parse = .ok ({}, []) := by
  have hw : (onlyDevice sent).walk "/dev/null" = [.ok ⟨"/dev/null", false⟩] :=
    Tree.walk_of_device rfl (locate_onlyDevice (by decide))
  have hf : (onlyDevice sent).isFile "/dev/null" = false := by
    rw [Tree.isFile, Tree.file?_of_device rfl (locate_onlyDevice (by decide))]
    rfl
  have hm : search (onlyDevice sent).view ⟨none, extensions, ["/dev/null"]⟩ = [] := by
    simp [search, met, Tree.view, hw, ofStep, isDocument, onlyFile, hf]
  have hi : inOrder [] = [] := by
    rw [inOrder, List.mergeSort_nil]
    rfl
  refine load_eq_ok_iff.mpr ⟨rfl, {}, ?_, rfl⟩
  simp [resolveSources, discover, hm, successes, failures, hi]

end OnlyDevice

/-- A module is written to a device without a fault, and the device does not read as the module. -/
theorem generate_to_device_reads_nothing :
    let arguments : GenerateArguments :=
      ⟨⟨none, ["graphql", "gql"], ["/dev/null"]⟩, none, none, none, some "/dev/null"⟩
    let outcome := generate (onlyDevice []) arguments
    let printed := (generate (onlyDevice []) { arguments with output := none }).report.output?
    ∃ message text, outcome.report = .success message ∧ printed = some text ∧
      outcome.files.read "/dev/null" = .error (.notFile "/dev/null") ∧
      outcome.files.sent = [(["dev", "null"], (text ++ "\n").toUTF8)] := by
  intro arguments outcome printed
  let m := GeneratedModule.ofSources {} []
  have hm : generateModule (onlyDevice []).view arguments = .ok m := by
    rw [generateModule, load_onlyDevice]
    rfl
  have ho : outcome = ⟨.success (writtenMessage "/dev/null" m), generateWarnings m,
      onlyDevice [(["dev", "null"], m.content.toUTF8)]⟩ := by
    simp only [outcome, generate, hm, arguments, writeModule, makeParents_onlyDevice,
      write_onlyDevice]
    rfl
  refine ⟨writtenMessage "/dev/null" m, m.body, by rw [ho], output?_of_generateModule hm, ?_, ?_⟩
  · rw [ho]
    exact Tree.read_of_device rfl (locate_onlyDevice (by decide))
  · rw [ho]
    rfl

end TypedTag.Command
