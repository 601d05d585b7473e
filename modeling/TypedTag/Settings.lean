import TypedTag.Naming.Namer
import TypedTag.Registry

/-! # Settings

What the emitted module is called after and how names are formed. A registry or a namespace whose
preferred name is taken gets underscores appended until its name is free.
-/

namespace TypedTag

open Naming

/-- How the overloads are delivered: in a module that also holds the registry and the function, or
as declarations that augment a module which has its own. -/
inductive EmissionMode
  | standalone
  | augmenting (moduleName : String)
  deriving DecidableEq, Repr

def EmissionMode.moduleName? : EmissionMode → Option String
  | .standalone => none
  | .augmenting moduleName => some moduleName

structure EmitterSettings where
  augmentedModule : Option String := none
  definitionsModule : String := "./graphql"
  policy : DuplicatePolicy := .firstWins
  header : Option String := none
  registryName : String := "documents"
  tagFunction : String := "gql"
  typedDocumentModule : String := "@graphql-typed-document-node/core"
  deriving DecidableEq, Repr

structure Settings where
  emitter : EmitterSettings := {}
  namer : Namer := {}
  deriving DecidableEq, Repr

/-- The preferred name with as few underscores appended as make it differ from all taken ones. -/
def freeName (preferred : String) (taken : List String) : String :=
  if preferred ∈ taken then freeName (preferred ++ "_") (taken.erase preferred) else preferred
termination_by taken.length
decreasing_by
  rename_i h
  rw [List.length_erase_of_mem h]
  have := List.length_pos_of_mem h
  omega

namespace EmitterSettings

def mode (s : EmitterSettings) : EmissionMode :=
  match s.augmentedModule with
  | none => .standalone
  | some moduleName => .augmenting moduleName

def registryIdentifier (s : EmitterSettings) : String :=
  freeName s.registryName [s.tagFunction]

def definitionsNamespace (s : EmitterSettings) : String :=
  freeName "graphql" [s.tagFunction, s.registryIdentifier]

end EmitterSettings

end TypedTag
