import TypedTag.Proofs.GeneratedModule.Content
import TypedTag.Proofs.Overload.Dispatch

/-! # The two modes side by side

A module that augments another one declares the same overloads as a standalone module, in the same
order and with the same parameters. This holds line by line in the two texts: no text of a source
and no module name breaks a line, because both are written as literals. Only a header may stand on
several lines.
-/

namespace TypedTag

open Text

def rows (text : String) : List String :=
  (text.toList.splitOn '\n').map String.ofList

/-- The lines of a text that ends with a line break. -/
def linesOf (text : String) : List String :=
  (rows text).dropLast

def unindented (line : String) : String :=
  String.ofList (line.toList.drop 2)

def declarationText (function param result : String) : String :=
  "export function " ++ function ++ "(source: " ++ param ++ "): " ++ result ++ ";"

/-- Tells that the settings other than the header have no line break. The name of the augmented
module may have one. -/
structure EmitterSettings.Unbroken (s : EmitterSettings) : Prop where
  definitionsModule : '\n' ∉ s.definitionsModule.toList
  registryName : '\n' ∉ s.registryName.toList
  tagFunction : '\n' ∉ s.tagFunction.toList
  typedDocumentModule : '\n' ∉ s.typedDocumentModule.toList

section Lines

theorem rows_of_not_mem {line : String} (h : '\n' ∉ line.toList) : rows line = [line] := by
  rw [rows, List.splitOn_eq_singleton h, List.map_singleton, String.ofList_toList]

theorem flatMap_rows {ls : List String} (h : ∀ l ∈ ls, '\n' ∉ l.toList) : ls.flatMap rows = ls := by
  rw [List.flatMap_congr fun l hl => rows_of_not_mem (h l hl), List.flatMap_singleton']

theorem dropLast_splitOn_terminated (ls : List String) :
    ((ls.flatMap terminated).splitOn '\n').dropLast = ls.flatMap (·.toList.splitOn '\n') := by
  induction ls with
  | nil => simp
  | cons l ls ih =>
    have hn := List.splitOn_ne_nil '\n' (ls.flatMap terminated)
    rw [List.flatMap_cons, List.flatMap_cons, terminated, List.append_assoc, List.singleton_append,
      List.splitOn_append_cons_self, List.dropLast_append_of_ne_nil hn, ih]

theorem linesOf_content (m : GeneratedModule) : linesOf m.content = m.lines.flatMap rows := by
  rw [linesOf, rows, m.toList_content, ← List.map_dropLast, dropLast_splitOn_terminated,
    List.map_flatMap]
  rfl

theorem unindented_indent (line : String) : unindented (indent line) = line := by
  by_cases h : line.toList = []
  · rw [String.toList_eq_nil_iff.mp h]
    rfl
  · rw [unindented, toList_indent h]
    exact String.ofList_toList

theorem indent_eq (line : String) : indent line = "" ∨ ∃ rest, indent line = "  " ++ rest := by
  unfold indent
  split
  case isTrue h => exact .inl (by simpa using h)
  case isFalse => exact .inr ⟨line, rfl⟩

end Lines

section Unbroken

variable {settings : EmitterSettings} {r : Registry}

theorem lineFeed_not_mem_indent {line : String} (h : '\n' ∉ line.toList) :
    '\n' ∉ (indent line).toList := by
  unfold indent
  split
  · exact h
  · simpa using h

theorem lineFeed_not_mem_documentTypeLines : ∀ l ∈ documentTypeLines, '\n' ∉ l.toList := by
  simp [documentTypeLines]

theorem ReturnType.render_registryIndex (registry text : String) :
    (registryIndex registry text).render = "(typeof " ++ registry ++ ")[" ++ literal text ++ "]" :=
  rfl

namespace EmitterSettings.Unbroken

variable (hs : settings.Unbroken) (hr : ∀ e ∈ r.entries, '\n' ∉ e.2.toList)
include hs

theorem registryIdentifier : '\n' ∉ settings.registryIdentifier.toList :=
  lineFeed_not_mem_freeName hs.registryName _

theorem typedDocumentImport : '\n' ∉ (typedDocumentImport settings).toList := by
  unfold TypedTag.typedDocumentImport
  rw [String.toList_append, String.toList_append, List.mem_append, List.mem_append, not_or, not_or]
  exact ⟨⟨by decide, hs.typedDocumentModule⟩, by decide⟩

theorem lookupLines : ∀ l ∈ lookupLines settings, '\n' ∉ l.toList := by
  simp [TypedTag.lookupLines, toString, hs.registryIdentifier, hs.tagFunction]

theorem result_ofEntry (mode : EmissionMode) {e : String × String} (he : '\n' ∉ e.2.toList) :
    '\n' ∉ (Overload.ofEntry mode settings e).result.render.toList := by
  cases mode with
  | standalone =>
    simp [Overload.ofEntry, ReturnType.render_registryIndex, hs.registryIdentifier,
      lineFeed_not_mem_literalChars]
  | augmenting moduleName =>
    simp [Overload.ofEntry, ReturnType.render_definitionRef, hs.definitionsModule, he]

theorem declaration {o : Overload} (hp : '\n' ∉ o.param.render.toList)
    (ho : '\n' ∉ o.result.render.toList) :
    '\n' ∉ (o.declaration settings.tagFunction).toList := by
  simp only [Overload.toList_declaration, List.mem_append, not_or]
  exact ⟨by decide, hs.tagFunction, by decide, hp, by decide, ho, by decide⟩

include hr

theorem registryLines :
    ∀ l ∈ registryLines r settings.registryIdentifier settings.definitionsNamespace,
      '\n' ∉ l.toList := by
  unfold TypedTag.registryLines
  split
  · simp [toString, hs.registryIdentifier]
  · rw [List.cons_append, List.forall_mem_cons, List.forall_mem_append, List.forall_mem_map]
    refine ⟨by simp [toString, hs.registryIdentifier], fun e he => ?_, by simp⟩
    exact lineFeed_not_mem_entryLine (lineFeed_not_mem_definitionsNamespace settings) (hr e he)

theorem declarations : ∀ l ∈ (⟨settings, r⟩ : GeneratedModule).declarations, '\n' ∉ l.toList := by
  rw [GeneratedModule.declarations, GeneratedModule.overloads, Overload.all, List.forall_mem_map,
    List.forall_mem_append, List.forall_mem_map]
  refine ⟨fun e he => ?_, ?_⟩
  · refine hs.declaration ?_ (hs.result_ofEntry _ (hr e he))
    simp [Overload.ofEntry, ParamType.render, lineFeed_not_mem_literalChars]
  · rw [List.forall_mem_singleton]
    exact hs.declaration (by decide) (by decide)

theorem standaloneLines :
    ∀ l ∈ (⟨settings, r⟩ : GeneratedModule).standaloneLines, '\n' ∉ l.toList := by
  unfold GeneratedModule.standaloneLines
  simp only [List.forall_mem_append, List.forall_mem_cons]
  have hn := lineFeed_not_mem_definitionsNamespace settings
  refine ⟨⟨⟨⟨⟨⟨⟨?_, hs.typedDocumentImport, ?_⟩, hs.registryLines hr⟩, ?_⟩, hs.declarations hr⟩,
    hs.lookupLines⟩, ?_⟩, lineFeed_not_mem_documentTypeLines⟩
  · simp [toString, hn, hs.definitionsModule]
  all_goals simp

theorem augmentingLines (moduleName : String) :
    ∀ l ∈ (⟨settings, r⟩ : GeneratedModule).augmentingLines moduleName, '\n' ∉ l.toList := by
  unfold GeneratedModule.augmentingLines
  simp only [List.forall_mem_append, List.forall_mem_cons, List.forall_mem_map]
  refine ⟨⟨⟨hs.typedDocumentImport, by simp, ?_, by simp⟩, ⟨fun l hl => ?_, ?_⟩, fun l hl => ?_⟩,
    by simp⟩
  · simp [lineFeed_not_mem_literalChars]
  · exact lineFeed_not_mem_indent (hs.declarations hr l hl)
  · simp [indent]
  · exact lineFeed_not_mem_indent (lineFeed_not_mem_documentTypeLines l hl)

end EmitterSettings.Unbroken

end Unbroken

theorem registryIndex_render_ne (registry text moduleName definition : String) :
    (ReturnType.registryIndex registry text).render ≠
      (ReturnType.definitionRef moduleName definition).render := by
  intro h
  have hl := congrArg (fun s => s.toList.head?) h
  simp [ReturnType.render_registryIndex, ReturnType.render_definitionRef] at hl

namespace GeneratedModule

variable {m : GeneratedModule}

theorem declarations_eq (m : GeneratedModule) :
    m.declarations = m.registry.entries.map (fun e =>
      (Overload.ofEntry m.settings.mode m.settings e).declaration m.settings.tagFunction) ++
        [declarationText m.settings.tagFunction "string" "unknown"] := by
  rw [declarations, overloads, Overload.all, List.map_append, List.map_map]
  rfl

theorem length_declarations (m : GeneratedModule) :
    m.declarations.length = m.registry.entries.length + 1 := by
  rw [declarations_eq, List.length_append, List.length_map, List.length_singleton]

theorem getLast?_declarations (m : GeneratedModule) :
    m.declarations.getLast? = some (declarationText m.settings.tagFunction "string" "unknown") := by
  rw [declarations_eq, List.getLast?_concat]

theorem getElem?_declarations {i : Nat} {e : String × String}
    (h : m.registry.entries[i]? = some e) :
    m.declarations[i]? = some (declarationText m.settings.tagFunction (literal e.1)
      (Overload.ofEntry m.settings.mode m.settings e).result.render) := by
  have hi : i < m.registry.entries.length := (List.getElem?_eq_some_iff.mp h).1
  rw [declarations_eq, List.getElem?_append_left (by simpa using hi), List.getElem?_map, h]
  rfl

theorem linesOf_content_of_unbroken {ls : List String}
    (h : m.lines = m.settings.header.toList ++ ls) (hl : ∀ l ∈ ls, '\n' ∉ l.toList) :
    linesOf m.content = m.settings.header.toList.flatMap rows ++ ls := by
  rw [linesOf_content, h, List.flatMap_append, flatMap_rows hl]

/-- The texts of a standalone module and of one that augments another module, from the same sources:
they declare overloads with the same parameters line by line and differ in what these return. The
one has them right before the function, the other in a block in which they are indented. -/
theorem modes_share_declarations (settings : EmitterSettings) (sources : List Source)
    (moduleName : String) (hs : settings.Unbroken)
    (hd : ∀ s ∈ sources, '\n' ∉ s.definition.toList) :
    let entries := (Registry.ofSources settings.policy sources).entries
    let header := settings.header.toList.flatMap rows
    let catchAll := declarationText settings.tagFunction "string" "unknown"
    let implementation := ["export function " ++ settings.tagFunction ++ "(source: string) \x7b",
      "  return (" ++ settings.registryIdentifier ++ " as any)[source] ?? \x7b\x7d;", "\x7d"]
    let documentType :=
      ["export type DocumentType<TDocumentNode extends DocumentNode<any, any>> = " ++
        "TDocumentNode extends DocumentNode<", "  infer TType,", "  any", ">", "  ? TType",
       "  : never;"]
    ∃ before own block declared,
      linesOf (ofSources { settings with augmentedModule := none } sources).content =
        header ++ before ++ [""] ++ own ++ implementation ++ [""] ++ documentType ∧
      linesOf (ofSources { settings with augmentedModule := some moduleName } sources).content =
        header ++ ["import \x7b TypedDocumentNode as DocumentNode \x7d from '" ++
            settings.typedDocumentModule ++ "';", "",
          "declare module " ++ literal moduleName ++ " \x7b"] ++ block ++ ["\x7d"] ∧
      (∀ line ∈ block, line = "" ∨ ∃ rest, line = "  " ++ rest) ∧
      block.map unindented = declared ++ [""] ++ documentType ∧
      own.length = entries.length + 1 ∧ declared.length = entries.length + 1 ∧
      own.getLast? = some catchAll ∧ declared.getLast? = some catchAll ∧
      ∀ (i : Nat) (e : String × String), entries[i]? = some e →
        let found := "(typeof " ++ settings.registryIdentifier ++ ")[" ++ literal e.1 ++ "]"
        let imported := "typeof import('" ++ settings.definitionsModule ++ "')." ++ e.2
        found ≠ imported ∧
        own[i]? = some (declarationText settings.tagFunction (literal e.1) found) ∧
        declared[i]? = some (declarationText settings.tagFunction (literal e.1) imported) := by
  intro entries header catchAll implementation documentType
  have hr : ∀ e ∈ entries, '\n' ∉ e.2.toList := fun e he =>
    hd _ (Registry.mem_sources_of_mem_entries he)
  -- The mode has no part in the registry, so both modules declare the same entries.
  let alone := ofSources { settings with augmentedModule := none } sources
  let within := ofSources { settings with augmentedModule := some moduleName } sources
  have hs' (name : Option String) :
      EmitterSettings.Unbroken { settings with augmentedModule := name } :=
    ⟨hs.definitionsModule, hs.registryName, hs.tagFunction, hs.typedDocumentModule⟩
  let space := settings.definitionsNamespace
  let before := [s!"import * as {space} from '{settings.definitionsModule}';",
    typedDocumentImport settings, ""] ++
      registryLines alone.registry settings.registryIdentifier space
  let block := (within.declarations ++ [""] ++ documentTypeLines).map indent
  refine ⟨before, alone.declarations, block, within.declarations, ?_, ?_, ?_, ?_,
    alone.length_declarations, within.length_declarations, alone.getLast?_declarations,
    within.getLast?_declarations, ?_⟩
  · have hl : alone.lines = alone.settings.header.toList ++ alone.standaloneLines := rfl
    rw [linesOf_content_of_unbroken hl ((hs' none).standaloneLines hr)]
    simp only [standaloneLines, before, List.append_assoc]
    rfl
  · have hl : within.lines = within.settings.header.toList ++ within.augmentingLines moduleName :=
      rfl
    rw [linesOf_content_of_unbroken hl ((hs' (some moduleName)).augmentingLines hr moduleName)]
    simp only [augmentingLines, block, List.append_assoc]
    rfl
  · rw [List.forall_mem_map]
    exact fun line _ => indent_eq line
  · have hi : unindented ∘ indent = id := funext unindented_indent
    rw [List.map_map, hi, List.map_id]
    rfl
  · intro i e he
    exact ⟨registryIndex_render_ne _ _ _ _, getElem?_declarations he, getElem?_declarations he⟩

/-- Line breaks in the texts and in the module's name add no line, only that in the header does. -/
theorem modes_of_broken_texts :
    let settings : EmitterSettings := { header := some "// a\n// b", policy := .lastWins }
    let sources : List Source :=
      [⟨"\x7b a\n\x7d", "A"⟩, ⟨"\"): never;\n", "B"⟩, ⟨"\x7b a\n\x7d", "C"⟩]
    settings.Unbroken ∧ (∀ s ∈ sources, '\n' ∉ s.definition.toList) ∧
      ∃ block, block.length = 10 ∧
        linesOf (ofSources { settings with augmentedModule := some "m\n" } sources).content =
          ["// a", "// b", "import \x7b TypedDocumentNode as DocumentNode \x7d from " ++
            "'@graphql-typed-document-node/core';", "", "declare module \"m\\n\" \x7b"] ++
            block ++ ["\x7d"] := by
  intro settings sources
  have hs : settings.Unbroken := ⟨by decide, by decide, by decide, by decide⟩
  have hd : ∀ s ∈ sources, '\n' ∉ s.definition.toList := by decide
  obtain ⟨_, _, block, declared, -, hl, -, hb, -, hn, -⟩ :=
    modes_share_declarations settings sources "m\n" hs hd
  refine ⟨hs, hd, block, ?_, hl⟩
  have he : (Registry.ofSources settings.policy sources).entries.length = 2 := by decide
  rw [← List.length_map unindented, hb, List.length_append, List.length_append, hn, he]
  rfl

end GeneratedModule

end TypedTag
