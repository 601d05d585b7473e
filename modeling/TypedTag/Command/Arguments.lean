import TypedTag.Registry

/-! # Command-line arguments

The program has the commands `generate` and `resolve`. Arguments are taken from left to right; an
option that still waits for its value, or whose value has not been looked at, is settled when the
next option, the next path or the end of the arguments comes.
-/

namespace TypedTag.Command

/-- Why arguments are not accepted. The help and the version are asked for in the same way. -/
inductive UsageError
  | displayHelp
  | displayVersion
  | invalidSubcommand
  | unknownArgument
  | invalidValue
  | tooManyValues
  | argumentConflict
  | missingRequiredArgument
  deriving DecidableEq, Repr

structure DocumentArguments where
  config : Option String
  extensions : List String
  paths : List String
  deriving DecidableEq, Repr

structure GenerateArguments where
  documents : DocumentArguments
  augmentedModule : Option String
  policy : Option DuplicatePolicy
  header : Option String
  output : Option String
  deriving DecidableEq, Repr

inductive Invocation
  | help
  | generate (arguments : GenerateArguments)
  | resolve (documents : DocumentArguments)
  deriving DecidableEq, Repr

inductive OptionName
  | augmentedModule
  | policy
  | config
  | extensions
  | header
  | output
  deriving DecidableEq, Repr

inductive Subcommand
  | generate
  | resolve
  deriving DecidableEq, Repr

def Subcommand.longOption? : Subcommand → String → Option OptionName
  | _, "config" => some .config
  | _, "graphql-file-exts" => some .extensions
  | .generate, "augmented-module-name" => some .augmentedModule
  | .generate, "duplicate-policy" => some .policy
  | .generate, "header" => some .header
  | .generate, "output" => some .output
  | _, _ => none

def Subcommand.shortOption? : Subcommand → Char → Option OptionName
  | _, 'c' => some .config
  | .generate, 'o' => some .output
  | _, _ => none

inductive Form
  | separator
  | long (name : String) (value : Option String)
  | short (letter : Char) (rest : List Char)
  | plain
  deriving DecidableEq, Repr

def form (argument : String) : Form :=
  match argument.toList with
  | ['-', '-'] => .separator
  | '-' :: '-' :: cs =>
    match cs.dropWhile (· ≠ '=') with
    | [] => .long (String.ofList cs) none
    | _ :: value => .long (String.ofList (cs.takeWhile (· ≠ '='))) (some (String.ofList value))
  | '-' :: c :: cs => .short c cs
  | _ => .plain

/-- The value written in one argument with the letter of its option. -/
def attachedValue? : List Char → Option String
  | [] => none
  | '=' :: cs => some (String.ofList cs)
  | cs => some (String.ofList cs)

/-- What was taken and is not settled yet. -/
inductive Pending
  | nothing
  | option (name : OptionName) (value : Option String)
  | paths (values : List String)
  deriving DecidableEq, Repr

structure Taken where
  config : Option String := none
  extensions : Option (List String) := none
  augmentedModule : Option String := none
  policy : Option DuplicatePolicy := none
  header : Option String := none
  output : Option String := none
  paths : List String := []
  pending : Pending := .nothing

def policy? : String → Option DuplicatePolicy
  | "first-wins" => some .firstWins
  | "last-wins" => some .lastWins
  | _ => none

def once {α : Type} (old : Option α) (value : Option α) : Except UsageError (Option α) :=
  if old.isSome then .error .argumentConflict
  else if value.isNone then .error .invalidValue
  else .ok value

def nonempty? (path : String) : Option String :=
  if path.isEmpty then none else some path

namespace Taken

def assign (s : Taken) (name : OptionName) (value : String) : Except UsageError Taken := do
  match name with
  | .config => return { s with config := ← once s.config (nonempty? value) }
  | .extensions =>
    let values := (value.toList.splitOn ',').map String.ofList
    return { s with extensions := some (s.extensions.getD [] ++ values) }
  | .augmentedModule => return { s with augmentedModule := ← once s.augmentedModule (some value) }
  | .policy => return { s with policy := ← once s.policy (policy? value) }
  | .header => return { s with header := ← once s.header (some value) }
  | .output => return { s with output := ← once s.output (nonempty? value) }

def settle (s : Taken) : Except UsageError Taken :=
  match s.pending with
  | .nothing => .ok s
  | .option _ none => .error .invalidValue
  | .option name (some value) => { s with pending := .nothing }.assign name value
  | .paths values =>
    if values.any String.isEmpty then .error .invalidValue
    else .ok { s with paths := s.paths ++ values, pending := .nothing }

def takePath (s : Taken) (path : String) : Except UsageError Taken := do
  match s.pending with
  | .paths values => return { s with pending := .paths (values ++ [path]) }
  | _ =>
    let s ← s.settle
    return { s with pending := .paths [path] }

def takeOption (s : Taken) (name : OptionName) (value : Option String) :
    Except UsageError Taken := do
  let s ← s.settle
  match value with
  | none => return { s with pending := .option name none }
  | some value => s.assign name value

def takeHelp (s : Taken) : Except UsageError Taken := do
  let _ ← s.settle
  throw .displayHelp

/-- Takes the next argument before a separator. -/
def take (command : Subcommand) (s : Taken) (argument : String) : Except UsageError Taken :=
  match form argument with
  | .separator | .plain =>
    match s.pending with
    | .option name none => .ok { s with pending := .option name (some argument) }
    | _ => s.takePath argument
  | .long "help" none => s.takeHelp
  | .long "help" (some _) => .error .tooManyValues
  | .long name value =>
    match command.longOption? name with
    | some option => s.takeOption option value
    | none => .error .unknownArgument
  | .short letter rest =>
    if letter = 'h' then s.takeHelp
    else match command.shortOption? letter with
      | some option => s.takeOption option (attachedValue? rest)
      | none => .error .unknownArgument

def takeAll (command : Subcommand) (s : Taken) : List String → Except UsageError Taken
  | [] => s.settle
  | argument :: rest => do
    if form argument = .separator then (← rest.foldlM takePath s).settle
    else takeAll command (← s.take command argument) rest

end Taken

def parseSubcommand (command : Subcommand) (arguments : List String) :
    Except UsageError Invocation := do
  let s ← ({} : Taken).takeAll command arguments
  if s.paths.isEmpty then throw .missingRequiredArgument
  let documents := ⟨s.config, s.extensions.getD ["graphql", "gql"], s.paths⟩
  match command with
  | .generate => return .generate ⟨documents, s.augmentedModule, s.policy, s.header, s.output⟩
  | .resolve => return .resolve documents

def subcommand? : String → Option Subcommand
  | "generate" => some .generate
  | "resolve" => some .resolve
  | _ => none

/-- The command `help` takes the name of at most one command. -/
def parseHelp : List String → UsageError
  | [] => .displayHelp
  | [name] => if (subcommand? name).isSome ∨ name = "help" then .displayHelp else .invalidSubcommand
  | _ => .invalidSubcommand

/-- Takes letters before the command. The result tells whether the output is verbose. -/
def takeLetters (verbose : Bool) : List Char → Except UsageError Bool
  | [] => .ok verbose
  | 'v' :: cs => if verbose then .error .argumentConflict else takeLetters true cs
  | 'h' :: _ => .error .displayHelp
  | 'V' :: _ => .error .displayVersion
  | _ => .error .unknownArgument

def takeLong (verbose : Bool) (name : String) (value : Option String) :
    Except UsageError Bool :=
  if name = "verbose" ∨ name = "help" ∨ name = "version" then
    if value.isSome then .error .tooManyValues
    else if name = "help" then .error .displayHelp
    else if name = "version" then .error .displayVersion
    else if verbose then .error .argumentConflict
    else .ok true
  else .error .unknownArgument

/-- What a first argument behind a separator means, where only a command could stand. -/
def misplaced (argument : String) : UsageError :=
  if (subcommand? argument).isSome ∨ argument = "help" then .unknownArgument
  else .invalidSubcommand

def parseFrom (verbose : Bool) : List String → Except UsageError Invocation
  | [] => .ok .help
  | argument :: rest =>
    match subcommand? argument with
    | some command => parseSubcommand command rest
    | none =>
      if argument = "help" then .error (parseHelp rest)
      else match form argument with
        | .separator =>
          match rest with
          | [] => .ok .help
          | next :: _ => .error (misplaced next)
        | .long name value => do parseFrom (← takeLong verbose name value) rest
        | .short letter letters => do parseFrom (← takeLetters verbose (letter :: letters)) rest
        | .plain => .error .invalidSubcommand

def parse (arguments : List String) : Except UsageError Invocation :=
  parseFrom false arguments

end TypedTag.Command
