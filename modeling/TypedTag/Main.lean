import TypedTag.Command.Run

/-! # The program

The files that the arguments can lead to are recorded as a tree, the command runs on that tree, and
whatever it changed there is done to the files.
-/

namespace TypedTag.Program

open Files Command

/-- The tree so far, and the directories in it that are complete. -/
structure Recording where
  tree : Tree
  complete : List Location := []

abbrev Recorder := StateT Recording IO

def record (place : Location) (node : Node) : Recorder Unit :=
  modify fun r => { r with tree := r.tree.put place node }

/-- Records a file without what it says. Files with more than one location are not told from others
here, since the system finds them again when they are written. -/
def recordFile (place : Location) : Recorder Unit := do
  let tree := (← get).tree
  unless (tree.node? place).isSome do record place (.file tree.freshNumber)

/-- A target that no file can have. -/
def nowhere : String := "\x00"

/-- Records what is at a location, but not what is in a directory there. The result is the location
it leads to, if that exists. -/
def recordNode (place : Location) : Recorder (Option Location) := do
  let here := (← IO.currentDir) / place.path
  let some metadata ← (here.symlinkMetadata).toBaseIO.map Except.toOption | return none
  match metadata.type with
  | .file =>
    recordFile place
    return some place
  | .dir =>
    record place .directory
    return some place
  | .symlink =>
    let reached ← (IO.FS.realPath here).toBaseIO.map Except.toOption
    match reached with
    | some target =>
      record place (.link target.toString)
      return some (Path.names target.toString)
    | none =>
      record place (.link nowhere)
      return none
  | .other =>
    record place .device
    return some place

/-- Records the directories above a location, which has no links in it. -/
def recordAbove (place : Location) : Recorder Unit :=
  (List.range place.length).forM fun n => discard (recordNode (place.take n))

/-- Records all that a walk from a location can meet. -/
partial def recordBelow (place : Location) : Recorder Unit := do
  if (← get).complete.contains place then return
  modify fun r => { r with complete := place :: r.complete }
  recordAbove place
  let some target ← recordNode place | return
  if target ≠ place then recordBelow target
  else if (← get).tree.node? place == some .directory then
    for entry in ← ((← IO.currentDir) / place.path).readDir do
      recordBelow (place ++ [entry.fileName])

/-- Records what the names of a path lead through. The result is the location of its end. -/
def recordPath (path : String) : Recorder (Option Location) := do
  let mut here := (← get).tree.start path
  recordAbove here
  discard (recordNode here)
  for name in Path.names path do
    if name = ".." then here := here.dropLast
    else if name ≠ "." then
      let some next ← recordNode (here ++ [name]) | return none
      recordAbove next
      discard (recordNode next)
      here := next
  return some here

def faultOf : IO.Error → Fault
  | .permissionDenied .. => .denied
  | .noFileOrDirectory .. => .notFound
  | .resourceExhausted .. => .noSpace
  | _ => .inputOutput

def readContents (places : List Location) : Recorder Unit :=
  places.forM fun place => do
    let some (.file number) := (← get).tree.node? place | return
    match ← (IO.FS.readBinFile place.path).toBaseIO with
    | .ok content => modify fun r => { r with tree := r.tree.setContent number content }
    | .error e =>
      let refused (access : Access) (other : Location) : Option Fault :=
        if access = .read ∧ other = place then some (faultOf e) else none
      modify fun r => { r with tree := { r.tree with
        refusal := fun access other => refused access other <|> r.tree.refusal access other } }

def recordDocuments (arguments : DocumentArguments) : Recorder Unit := do
  for path in arguments.paths do
    if let some place ← recordPath path then recordBelow place
  if let some path := arguments.config then
    if let some place ← recordPath path then readContents [place]
  readContents (discover (← get).tree.view arguments).1

def applyChange : Change → IO Unit
  | .makeDirectory place => IO.FS.createDirAll place.path
  | .write place octets => IO.FS.withFile place.path .write fun file => do
    file.write octets
    file.flush

def usage : String :=
  "Generates a typed `gql` tag module from GraphQL documents.\n\n" ++
    "Usage: typed-tag [-v] generate [OPTIONS] PATH...\n" ++
    "       typed-tag [-v] resolve [OPTIONS] PATH...\n\n" ++
    "Options:\n" ++
    "  -c, --config FILE              settings, which options take precedence over\n" ++
    "      --graphql-file-exts EXTS   extensions of document files (graphql,gql)\n\n" ++
    "Options of generate:\n" ++
    "      --augmented-module-name NAME\n" ++
    "      --duplicate-policy first-wins|last-wins\n" ++
    "      --header LINE\n" ++
    "  -o, --output FILE"

def usageMessage : UsageError → String
  | .displayHelp => usage
  | .displayVersion => "typed-tag 0.0.1"
  | .invalidSubcommand => "error: unrecognized subcommand"
  | .unknownArgument => "error: unexpected argument"
  | .invalidValue => "error: invalid or missing value"
  | .tooManyValues => "error: unexpected value"
  | .argumentConflict => "error: an argument cannot be used multiple times"
  | .missingRequiredArgument => "error: the required arguments were not provided"

def tell (outcome : Outcome) : IO UInt32 := do
  outcome.warnings.forM fun warning => IO.eprintln ("WARN " ++ warning)
  outcome.report.output?.forM fun text => IO.println text
  outcome.report.errorOutput?.forM fun text => IO.eprintln text
  return outcome.report.exitCode

/-- The tree in which a change fails as it did. -/
def withFailure (t : Tree) (e : IO.Error) : Change → Tree
  | .makeDirectory _ => { t with
      refusal := fun access _ => if access = .make then some (faultOf e) else none }
  | .write .. => { t with room := fun _ => some (0, faultOf e) }

/-- Does what a command did to the tree. If that fails, the command is told of it and ends again. -/
def finish (command : Tree → Outcome) (t : Tree) : IO UInt32 := do
  let outcome := command t
  for change in t.changes outcome.files do
    if let .error e ← (applyChange change).toBaseIO then
      return ← tell (command (withFailure t e change))
  tell outcome

def run (arguments : List String) : IO UInt32 := do
  let start : Recording := ⟨{ workingDirectory := Path.names (← IO.currentDir).toString }, []⟩
  match parse arguments with
  | .error e =>
    if e = .displayHelp ∨ e = .displayVersion then
      IO.println (usageMessage e)
      return 0
    else
      IO.eprintln (usageMessage e)
      return 2
  | .ok .help =>
    IO.println usage
    return 0
  | .ok (.generate arguments) =>
    let (_, r) ← (do
      arguments.output.forM fun path => discard (recordPath path)
      recordDocuments arguments.documents : Recorder Unit).run start
    finish (generate · arguments) r.tree
  | .ok (.resolve documents) =>
    let (_, r) ← (recordDocuments documents).run start
    finish (resolve · documents) r.tree

end TypedTag.Program

def main (arguments : List String) : IO UInt32 :=
  TypedTag.Program.run arguments
