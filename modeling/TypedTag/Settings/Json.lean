import TypedTag.Settings

/-! # Settings files

The settings of the emitter and those of the namer stand side by side in one JSON object. The whole
object is read before any member is looked at, then the emitter takes its members and the namer its
own.
-/

namespace TypedTag

open Json Naming

def DuplicatePolicy.key : DuplicatePolicy → String
  | .firstWins => "firstWins"
  | .lastWins => "lastWins"

def DuplicatePolicy.variants : List (String × DuplicatePolicy) :=
  [.firstWins, .lastWins].map fun p => (p.key, p)

def Naming.Convention.key : Convention → String
  | .pascalCase => "pascalCase"
  | .keep => "keep"

def Naming.Convention.variants : List (String × Convention) :=
  [.pascalCase, .keep].map fun c => (c.key, c)

def EmitterSettings.record : Record EmitterSettings where
  name := "EmitterConfig"
  fields :=
    [⟨"augmentedModuleName",
        .optionalText (·.augmentedModule) fun m s => { s with augmentedModule := m }⟩,
     ⟨"definitionsModule",
        .text (·.definitionsModule) fun m s => { s with definitionsModule := m }⟩,
     ⟨"duplicatePolicy",
        .choice (·.policy.key)
          (DuplicatePolicy.variants.map fun (key, p) => (key, fun s => { s with policy := p }))⟩,
     ⟨"header", .optionalText (·.header) fun h s => { s with header := h }⟩,
     ⟨"registryName", .text (·.registryName) fun r s => { s with registryName := r }⟩,
     ⟨"tagFunctionName", .text (·.tagFunction) fun f s => { s with tagFunction := f }⟩,
     ⟨"typedDocumentModule",
        .text (·.typedDocumentModule) fun m s => { s with typedDocumentModule := m }⟩]
  required := false
  start := {}

def Naming.Namer.record : Record Namer where
  name := "DefinitionNamer"
  fields :=
    [⟨"namingConvention",
        .choice (·.convention.key)
          (Convention.variants.map fun (key, c) => (key, fun s => { s with convention := c }))⟩,
     ⟨"transformUnderscore",
        .flag (·.dropUnderscores) fun b s => { s with dropUnderscores := b }⟩]
  required := false
  start := {}

namespace Settings

def ofMembers (members : List (String × Value)) : Except Json.Error Settings := do
  let emitter ← EmitterSettings.record.overlay [] {} members
  let namer ← Namer.record.overlay [] {} members
  return { emitter, namer }

/-- Reads the object with its values before any of them is taken for a setting. -/
def reader : Reader Settings := do
  match ← Reader.peek with
  | some '{' => ofMembers (← Reader.members (Reader.value (Reader.maxDepth - 1)))
  | _ => Reader.mismatch "struct CodegenConfig"

def ofJson (text : String) : Except Json.Error Settings :=
  reader.run text

def toJson (s : Settings) : Value :=
  .object (EmitterSettings.record.fields.map (fun f => (f.name, f.slot.encode s.emitter)) ++
    Namer.record.fields.map fun f => (f.name, f.slot.encode s.namer))

end Settings

end TypedTag
