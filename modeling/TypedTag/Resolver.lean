import TypedTag.Document.Definitions
import TypedTag.Files.View
import TypedTag.Source
import TypedTag.Text.LineBreak

/-! # Resolving sources

A text is parsed with its line breaks unified, and becomes a source if it has a named definition.
The first one is the definition the source stands for. A step that fails adds nothing.
-/

namespace TypedTag

open Document Files Naming Text

structure NamedDefinition where
  kind : DefinitionKind
  name : String
  symbol : String
  deriving DecidableEq, Repr

/-- A source with all its named definitions, the primary one first. -/
structure HeldSource where
  text : String
  path : Option String
  primary : NamedDefinition
  others : List NamedDefinition
  deriving DecidableEq, Repr

namespace HeldSource

def definitions (s : HeldSource) : List NamedDefinition :=
  s.primary :: s.others

def source (s : HeldSource) : Source :=
  ⟨s.text, s.primary.symbol⟩

end HeldSource

inductive ResolveError
  | read (error : ReadError)
  | parse (path : Option String) (error : ParseError)
  deriving DecidableEq, Repr

def ResolveError.message : ResolveError → String
  | .read error => "Failed to read GraphQL document source: " ++ error.message
  | .parse path error =>
    "Failed to parse GraphQL document source" ++ path.elim "" (" at " ++ quoted ·) ++ ": " ++
      error.message

namespace Naming.Namer

/-- The definition with the symbol it is exported under, unless it has no name. -/
def define? (namer : Namer) (d : Definition) : Option NamedDefinition :=
  d.named?.map fun (kind, name) => ⟨kind, name, namer.symbol kind name⟩

/-- The source that a text makes, if it names a definition. -/
def resolveText (namer : Namer) (content : String) (path : Option String)
    (parse : Parser := Document.definitions) : Except ResolveError (Option HeldSource) :=
  let text := withLineFeeds content
  match parse text with
  | .error e => .error (.parse path e)
  | .ok definitions =>
    match definitions.filterMap namer.define? with
    | [] => .ok none
    | d :: ds => .ok (some ⟨text, path, d, ds⟩)

def resolveFile (namer : Namer) (files : FileView) (path : String)
    (parse : Parser := Document.definitions) : Except ResolveError (Option HeldSource) :=
  match files.read path with
  | .error e => .error (.read e)
  | .ok content => namer.resolveText content (some path) parse

end Naming.Namer

structure Resolver where
  namer : Namer := {}
  held : List HeldSource := []

namespace Resolver

def add (r : Resolver) (outcome : Except ResolveError (Option HeldSource)) :
    Except ResolveError Resolver :=
  outcome.map fun source => { r with held := r.held ++ source.toList }

def addText (r : Resolver) (content : String) (path : Option String)
    (parse : Parser := Document.definitions) : Except ResolveError Resolver :=
  r.add (r.namer.resolveText content path parse)

def addFile (r : Resolver) (files : FileView) (path : String)
    (parse : Parser := Document.definitions) : Except ResolveError Resolver :=
  r.add (r.namer.resolveFile files path parse)

def sources (r : Resolver) : List Source :=
  r.held.map HeldSource.source

end Resolver

end TypedTag
