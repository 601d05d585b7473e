import TypedTag.Naming.Convention

/-! # Symbols of definitions

The symbol under which the document of a definition is exported: its converted name followed by a
suffix, which tells fragments from operations.
-/

namespace TypedTag.Naming

inductive DefinitionKind
  | fragment
  | mutation
  | query
  | subscription
  deriving DecidableEq, Repr

def DefinitionKind.suffix : DefinitionKind → String
  | .fragment => "FragmentDoc"
  | .mutation | .query | .subscription => "Document"

structure Namer where
  convention : Convention := .pascalCase
  dropUnderscores : Bool := false
  deriving DecidableEq, Repr

def Namer.symbol (namer : Namer) (kind : DefinitionKind) (name : String) : String :=
  namer.convention.apply namer.dropUnderscores name ++ kind.suffix

end TypedTag.Naming
