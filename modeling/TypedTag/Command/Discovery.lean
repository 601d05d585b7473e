import TypedTag.Command.Arguments
import TypedTag.Resolver

/-! # Finding documents

The documents are the files with a wanted extension that are met on the walks from the given paths.
They are known by their locations, so a file met twice counts once, and their order is that of the
locations whatever the order of the walks. Names are taken as UTF-8 text, so an extension is
compared as it stands, and no octets have to be replaced in it first.
-/

namespace TypedTag.Command

open Files Naming

inductive DocumentError
  | walk (error : WalkError)
  | lost (path : String) (fault : Fault)
  | source (error : ResolveError)
  deriving DecidableEq, Repr

def DocumentError.message : DocumentError → String
  | .walk error => error.message
  | .lost path fault => s!"{path}: {fault.message}"
  | .source error => error.message

def wantedExtension (extension : String) : String :=
  String.ofList (extension.toList.dropWhile (· = '.'))

def isDocument (extensions : List String) (entry : Entry) : Bool :=
  entry.isFile &&
    (Path.extension? entry.path).any fun e => (extensions.map wantedExtension).contains e

def locateFile (files : FileView) (path : String) : Except DocumentError Location :=
  (files.canonical path).mapError (.lost path)

/-- What a step of a walk contributes: a document, an error or nothing. -/
def ofStep (files : FileView) (extensions : List String) :
    WalkStep → Option (Except DocumentError Location)
  | .error e => some (.error (.walk e))
  | .ok entry => if isDocument extensions entry then some (locateFile files entry.path) else none

def met (files : FileView) (arguments : DocumentArguments) :
    List (Except DocumentError Location) :=
  (arguments.paths.flatMap files.walk).filterMap (ofStep files arguments.extensions)

def failures {ε α : Type} (results : List (Except ε α)) : List ε :=
  results.filterMap fun
    | .error e => some e
    | .ok _ => none

def successes {ε α : Type} (results : List (Except ε α)) : List α :=
  results.filterMap fun
    | .error _ => none
    | .ok a => some a

/-- A single file is taken even if its extension is not wanted. -/
def onlyFile (files : FileView) : List String → List (Except DocumentError Location)
  | [path] => if files.isFile path then [locateFile files path] else []
  | _ => []

def nameBefore (a b : String) : Bool :=
  a.toList.lex b.toList fun c d => c < d

/-- Locations are compared name by name, and names character by character. -/
def precedes (a b : Location) : Bool :=
  !b.lex a nameBefore

def inOrder (places : List Location) : List Location :=
  (places.mergeSort precedes).eraseReps

/-- What the search comes upon, in this order. The only path is looked at if no walk finds a
document. -/
def search (files : FileView) (arguments : DocumentArguments) :
    List (Except DocumentError Location) :=
  let walked := met files arguments
  if (successes walked).isEmpty then walked ++ onlyFile files arguments.paths else walked

/-- The locations of the documents, and what went wrong on the way to them. -/
def discover (files : FileView) (arguments : DocumentArguments) :
    List Location × List DocumentError :=
  (inOrder (successes (search files arguments)), failures (search files arguments))

/-- Resolves all documents. Every error is reported, those of the search before those of files. -/
def resolveSources (files : FileView) (namer : Namer) (arguments : DocumentArguments)
    (parse : Document.Parser := Document.definitions) : Except (List DocumentError) Resolver :=
  let (places, errors) := discover files arguments
  let outcomes := places.map fun place => namer.resolveFile files place.path parse
  let errors := errors ++ (failures outcomes).map .source
  if errors.isEmpty then .ok ⟨namer, (successes outcomes).flatMap Option.toList⟩
  else .error errors

def documentErrorsMessage (errors : List DocumentError) : String :=
  s!"{errors.length} document errors:\n" ++
    "\n".intercalate (errors.map fun e => "  * " ++ e.message)

end TypedTag.Command
