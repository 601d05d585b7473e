import TypedTag.Command.Discovery
import TypedTag.Files.Write
import TypedTag.GeneratedModule
import TypedTag.Settings.Json

/-! # Running commands

A command reads its settings, then its documents, and writes only when all of that went well. Its
outcome is a report, the warnings on the way, and the files as they are left.
-/

namespace TypedTag.Command

open Document Files Text

inductive Report
  | success (text : String)
  | failure (text : String)
  deriving DecidableEq, Repr

namespace Report

def output? : Report → Option String
  | .success text => some text
  | .failure _ => none

def errorOutput? : Report → Option String
  | .success _ => none
  | .failure text => some text

def exitCode : Report → UInt32
  | .success _ => 0
  | .failure _ => 1

end Report

structure Outcome where
  report : Report
  warnings : List String := []
  files : Tree

inductive Failure
  | settingsFile (error : ReadError)
  | settings (error : Json.Error)
  | documents (errors : List DocumentError)
  | makeDirectory (path : String) (fault : Fault)
  | write (path : String) (fault : Fault)

def settingsErrorMessage (error : Json.Error) : String :=
  "Invalid codegen config JSON: " ++ error.message

/-- A JSON error is told twice, as the error in the settings and as its cause. -/
def Failure.message : Failure → String
  | .settingsFile error => error.message
  | .settings error => settingsErrorMessage error ++ ": " ++ error.message
  | .documents errors => documentErrorsMessage errors
  | .makeDirectory path fault => "Failed to create " ++ quoted path ++ ": " ++ fault.message
  | .write path fault => "Failed to write " ++ quoted path ++ ": " ++ fault.message

def Failure.report (f : Failure) : Report :=
  .failure ("❌ " ++ f.message)

def loadSettings (files : FileView) : Option String → Except Failure Settings
  | none => .ok {}
  | some path =>
    match files.read path with
    | .error e => .error (.settingsFile e)
    | .ok text => (Settings.ofJson text).mapError .settings

def load (files : FileView) (arguments : DocumentArguments)
    (parse : Parser := Document.definitions) : Except Failure (Settings × List Source) := do
  let settings ← loadSettings files arguments.config
  let resolver ← (resolveSources files settings.namer arguments parse).mapError .documents
  return (settings, resolver.sources)

/-- Options take precedence over the settings file. -/
def applyOptions (arguments : GenerateArguments) (s : EmitterSettings) : EmitterSettings :=
  { s with
    augmentedModule := arguments.augmentedModule <|> s.augmentedModule
    policy := arguments.policy.getD s.policy
    header := arguments.header <|> s.header }

def generateModule (files : FileView) (arguments : GenerateArguments)
    (parse : Parser := Document.definitions) : Except Failure GeneratedModule := do
  let (settings, sources) ← load files arguments.documents parse
  return .ofSources (applyOptions arguments settings.emitter) sources

def unreachableWarning (c : Conflict) : String :=
  s!"⚠️ `{c.kept}` and `{c.discarded}` share identical source text; " ++
    s!"only `{c.kept}` is reachable through the generated overloads."

def generateWarnings (m : GeneratedModule) : List String :=
  m.warnings ++ m.registry.conflicts.map unreachableWarning

/-- Makes the directories that a path names above its last name. -/
def makeParents (files : Tree) (path : String) : Tree × Option Failure :=
  match Path.parent? path with
  | none => (files, none)
  | some parent =>
    if parent.isEmpty then (files, none)
    else
      let (files, fault) := files.makeDirectories parent
      (files, fault.map (.makeDirectory parent))

def writeModule (files : Tree) (path : String) (m : GeneratedModule) : Tree × Option Failure :=
  match makeParents files path with
  | (files, some failure) => (files, some failure)
  | (files, none) =>
    let (files, fault) := files.write path m.content.toUTF8
    (files, fault.map (.write path))

def writtenMessage (path : String) (m : GeneratedModule) : String :=
  let mode := m.settings.mode.moduleName?.elim "local" fun moduleName =>
    s!"augmenting `{moduleName}`"
  s!"✅ Generated {quoted path}:\n" ++
    s!"  * Registered {m.registry.size} document sources.\n" ++
    s!"  * Emitted {m.overloads.length} overloads ({mode}).\n" ++
    s!"  * Skipped {m.registry.conflicts.length} ambiguous duplicate sources."

def generate (files : Tree) (arguments : GenerateArguments)
    (parse : Parser := Document.definitions) : Outcome :=
  match generateModule files.view arguments parse with
  | .error failure => { report := failure.report, files }
  | .ok m =>
    match arguments.output with
    | none => { report := .success m.body, warnings := generateWarnings m, files }
    | some path =>
      match writeModule files path m with
      | (files, none) =>
        { report := .success (writtenMessage path m), warnings := generateWarnings m, files }
      | (files, some failure) =>
        { report := failure.report, warnings := generateWarnings m, files }

def resolve (files : Tree) (arguments : DocumentArguments)
    (parse : Parser := Document.definitions) : Outcome :=
  match load files.view arguments parse with
  | .error failure => { report := failure.report, files }
  | .ok (_, sources) => { report := .success (Source.listToJson sources).indented, files }

end TypedTag.Command
