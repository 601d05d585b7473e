import TypedTag.Overload

/-! # The generated module

The module is a list of lines, some of which may hold line breaks of their own. A standalone module
declares the registry, the overloads and the function that looks a text up. A module that augments
another one only declares the overloads, inside a block for that module.
-/

namespace TypedTag

open Text

/-- The type that a typed document resolves to. It is the same in every module. -/
def documentTypeLines : List String :=
  ["export type DocumentType<TDocumentNode extends DocumentNode<any, any>> = " ++
      "TDocumentNode extends DocumentNode<",
   "  infer TType,",
   "  any",
   ">",
   "  ? TType",
   "  : never;"]

def typedDocumentImport (settings : EmitterSettings) : String :=
  s!"import \x7b TypedDocumentNode as DocumentNode \x7d from '{settings.typedDocumentModule}';"

def entryLine (space : String) (entry : String × String) : String :=
  "    " ++ literal entry.1 ++ s!": {space}.{entry.2},"

/-- The registry as an object whose values are members of the imported namespace. -/
def registryLines (registry : Registry) (name space : String) : List String :=
  if registry.entries.isEmpty then [s!"export const {name} = \x7b\x7d;"]
  else s!"export const {name} = \x7b" :: registry.entries.map (entryLine space) ++ ["\x7d;"]

def lookupLines (settings : EmitterSettings) : List String :=
  [s!"export function {settings.tagFunction}(source: string) \x7b",
   s!"  return ({settings.registryIdentifier} as any)[source] ?? \x7b\x7d;",
   "\x7d"]

def indent (line : String) : String :=
  if line.isEmpty then line else "  " ++ line

structure GeneratedModule where
  settings : EmitterSettings
  registry : Registry

namespace GeneratedModule

def ofSources (settings : EmitterSettings) (sources : List Source) : GeneratedModule :=
  ⟨settings, .ofSources settings.policy sources⟩

def overloads (m : GeneratedModule) : List Overload :=
  Overload.all m.registry m.settings.mode m.settings

def declarations (m : GeneratedModule) : List String :=
  m.overloads.map (Overload.declaration m.settings.tagFunction)

def standaloneLines (m : GeneratedModule) : List String :=
  let space := m.settings.definitionsNamespace
  [s!"import * as {space} from '{m.settings.definitionsModule}';",
   typedDocumentImport m.settings, ""] ++
    registryLines m.registry m.settings.registryIdentifier space ++ [""] ++
    m.declarations ++ lookupLines m.settings ++ [""] ++ documentTypeLines

def augmentingLines (m : GeneratedModule) (moduleName : String) : List String :=
  [typedDocumentImport m.settings, "", "declare module " ++ literal moduleName ++ " \x7b"] ++
    (m.declarations ++ [""] ++ documentTypeLines).map indent ++ ["\x7d"]

def lines (m : GeneratedModule) : List String :=
  m.settings.header.toList ++
    match m.settings.mode with
    | .standalone => m.standaloneLines
    | .augmenting moduleName => m.augmentingLines moduleName

def body (m : GeneratedModule) : String :=
  "\n".intercalate m.lines

def content (m : GeneratedModule) : String :=
  m.body ++ "\n"

/-- The warning that the registry could not have its preferred name. -/
def renamed? (m : GeneratedModule) : Option String :=
  let s := m.settings
  if s.mode = .standalone ∧ s.registryIdentifier ≠ s.registryName then
    some (s!"Registry name `{s.registryName}` collides with the `{s.tagFunction}` tag function; " ++
      s!"declaring the registry as `{s.registryIdentifier}`.")
  else none

def warnings (m : GeneratedModule) : List String :=
  m.registry.conflicts.map (Conflict.warning m.settings.policy) ++ m.renamed?.toList

end GeneratedModule

end TypedTag
