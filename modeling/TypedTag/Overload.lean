import TypedTag.Settings
import TypedTag.Text.Literal

/-! # Overloads of the tag function

Every registered text has a signature of its own, whose result is the document of that text. The
last signature takes any string.
-/

namespace TypedTag

open Text

inductive ParamType
  | literal (text : String)
  | string
  deriving DecidableEq, Repr

/-- A result is looked up in the registry constant, imported from the definitions, or unknown. -/
inductive ReturnType
  | registryIndex (registry text : String)
  | definitionRef (moduleName definition : String)
  | unknown
  deriving DecidableEq, Repr

structure Overload where
  param : ParamType
  result : ReturnType
  deriving DecidableEq, Repr

def ParamType.render : ParamType → String
  | .literal text => Text.literal text
  | .string => "string"

def ReturnType.render : ReturnType → String
  | .registryIndex registry text => s!"(typeof {registry})[" ++ literal text ++ "]"
  | .definitionRef moduleName definition => s!"typeof import('{moduleName}').{definition}"
  | .unknown => "unknown"

namespace Overload

def catchAll : Overload :=
  ⟨.string, .unknown⟩

def declaration (function : String) (o : Overload) : String :=
  s!"export function {function}(source: " ++ o.param.render ++ "): " ++ o.result.render ++ ";"

def ofEntry (mode : EmissionMode) (settings : EmitterSettings) (entry : String × String) :
    Overload where
  param := .literal entry.1
  result :=
    match mode with
    | .standalone => .registryIndex settings.registryIdentifier entry.1
    | .augmenting _ => .definitionRef settings.definitionsModule entry.2

/-- All signatures: one for each entry in the order of the registry, then the one for any string. -/
def all (registry : Registry) (mode : EmissionMode) (settings : EmitterSettings) :
    List Overload :=
  registry.entries.map (ofEntry mode settings) ++ [catchAll]

end Overload

end TypedTag
