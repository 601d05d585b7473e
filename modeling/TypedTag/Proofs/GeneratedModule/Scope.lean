import TypedTag.Proofs.GeneratedModule.Modes

/-! # Names in a standalone module

The names that a standalone module introduces and refers to are read off its lines. Inside the tag
function a name first means the parameter, then what the module introduced under it. The registry is
renamed only when it has the name of the tag function, so the parameter or the imported type may
take its name from it.
-/

namespace TypedTag

open Text Json

/-- A character of a name. Beyond ASCII any character may be one. -/
def isWordChar (c : Char) : Bool :=
  0x80 ≤ c.toNat || c.isAlphanum || c = '_' || c = '$'

def isWord (s : String) : Bool :=
  s.toList.all isWordChar

def behind? (opening : String) (text : List Char) : Option (List Char) :=
  opening.toList.isPrefixOf? text

def word (text : List Char) : String × List Char :=
  (String.ofList (text.takeWhile isWordChar), text.dropWhile isWordChar)

inductive Binder
  | definitions
  | documentType
  | registry
  | tagFunction
  | parameter
  deriving DecidableEq, Repr

/-- The name that a line introduces in its module, as an import or as a value. A type is left out
that the module declares itself, as it may share its name with a value. -/
def introduced? (line : String) : Option (String × Binder) :=
  [("import * as ", Binder.definitions), ("import \x7b TypedDocumentNode as ", .documentType),
    ("export const ", .registry), ("export function ", .tagFunction)].findSome?
      fun (opening, binder) => (behind? opening line.toList).map fun rest => ((word rest).1, binder)

/-- The constant in whose type the result is looked up, behind the parameter of a declaration. -/
def constant? (text : List Char) : Option String := do
  let rest ← behind? ": \"" text
  let (_, rest) ← (stringRest true .none rest).toOption
  let rest ← behind? "): (typeof " rest
  return (word rest).1

def signature? (line : String) : Option (String × Option String) := do
  let rest ← behind? "export function " line.toList
  let rest ← behind? "(" (word rest).2
  let (parameter, rest) := word rest
  return (parameter, constant? rest)

/-- The names of the object and of the key in a line that returns what is found under the key, or a
new object. -/
def returned? (line : String) : Option (String × String) := do
  let rest ← behind? "  return (" line.toList
  let (object, rest) := word rest
  let rest ← behind? " as any)[" rest
  let (key, rest) := word rest
  if behind? "] ?? \x7b\x7d;" rest = some [] then some (object, key) else none

def introducedAs (lines : List String) (name : String) : List Binder :=
  (((lines.filterMap introduced?).filter (·.1 = name)).map (·.2)).eraseDups

/-- All that a name may mean inside the tag function. Its parameter hides what the module introduced
under the same name. -/
def meanings (lines : List String) (parameter name : String) : List Binder :=
  if name = parameter then [.parameter] else introducedAs lines name

structure EmitterSettings.Named (s : EmitterSettings) : Prop where
  registryName : isWord s.registryName
  tagFunction : isWord s.tagFunction

/-- Tells that no two things in a standalone module share a name, and that the parameter does not
hide the registry. -/
structure EmitterSettings.NamesApart (s : EmitterSettings) : Prop where
  nodup : [s.registryIdentifier, s.definitionsNamespace, s.tagFunction, "DocumentNode"].Nodup
  ne_parameter : s.registryIdentifier ≠ "source"

section Reading

variable {w : String} {c : Char} {rest : List Char} {line : String}

theorem behind?_append (opening : String) (rest : List Char) :
    behind? opening (opening.toList ++ rest) = some rest :=
  List.isPrefixOf?_eq_some_iff_append_eq.mpr rfl

theorem word_append (hw : isWord w) (hc : ¬ isWordChar c) :
    word (w.toList ++ c :: rest) = (w, c :: rest) := by
  have ha : ∀ d ∈ w.toList, isWordChar d := List.all_eq_true.mp hw
  rw [word, List.takeWhile_append_of_pos ha, List.dropWhile_append_of_pos ha,
    List.takeWhile_cons_of_neg hc, List.dropWhile_cons_of_neg hc, List.append_nil,
    String.ofList_toList]

variable (hw : isWord w) (hc : ¬ isWordChar c)
include hw hc

theorem introduced?_definitions
    (h : line.toList = "import * as ".toList ++ (w.toList ++ c :: rest)) :
    introduced? line = some (w, .definitions) := by
  simp [introduced?, h, word_append hw hc, behind?, List.isPrefixOf?]

theorem introduced?_documentType
    (h : line.toList = "import \x7b TypedDocumentNode as ".toList ++ (w.toList ++ c :: rest)) :
    introduced? line = some (w, .documentType) := by
  simp [introduced?, h, word_append hw hc, behind?, List.isPrefixOf?]

theorem introduced?_registry (h : line.toList = "export const ".toList ++ (w.toList ++ c :: rest)) :
    introduced? line = some (w, .registry) := by
  simp [introduced?, h, word_append hw hc, behind?, List.isPrefixOf?]

theorem introduced?_tagFunction
    (h : line.toList = "export function ".toList ++ (w.toList ++ c :: rest)) :
    introduced? line = some (w, .tagFunction) := by
  simp [introduced?, h, word_append hw hc, behind?, List.isPrefixOf?]

end Reading

def definitionsImport (settings : EmitterSettings) : String :=
  s!"import * as {settings.definitionsNamespace} from '{settings.definitionsModule}';"

def lookupOpening (settings : EmitterSettings) : String :=
  s!"export function {settings.tagFunction}(source: string) \x7b"

def lookupBody (settings : EmitterSettings) : String :=
  s!"  return ({settings.registryIdentifier} as any)[source] ?? \x7b\x7d;"

section Lines

variable {β : Type} {read : String → Option β} {settings : EmitterSettings} {space : String}

theorem lookupLines_eq (settings : EmitterSettings) :
    lookupLines settings = [lookupOpening settings, lookupBody settings, "\x7d"] := rfl

theorem toList_definitionsImport (settings : EmitterSettings) :
    (definitionsImport settings).toList = "import * as ".toList ++
      (settings.definitionsNamespace.toList ++
        ' ' :: ("from '" ++ settings.definitionsModule ++ "';").toList) := by
  unfold definitionsImport
  simp [toString]

theorem toList_typedDocumentImport (settings : EmitterSettings) :
    (typedDocumentImport settings).toList = "import \x7b TypedDocumentNode as ".toList ++
      ("DocumentNode".toList ++
        ' ' :: ("\x7d from '" ++ settings.typedDocumentModule ++ "';").toList) := by
  unfold typedDocumentImport
  simp [toString]

theorem toList_lookupOpening (settings : EmitterSettings) :
    (lookupOpening settings).toList = "export function ".toList ++ (settings.tagFunction.toList ++
      ("(source: ".toList ++ "string) \x7b".toList)) := by
  unfold lookupOpening
  simp [toString]

theorem toList_lookupBody (settings : EmitterSettings) :
    (lookupBody settings).toList = "  return (".toList ++ (settings.registryIdentifier.toList ++
      ' ' :: "as any)[source] ?? \x7b\x7d;".toList) := by
  unfold lookupBody
  simp [toString]

theorem introduced?_typedDocumentImport (settings : EmitterSettings) :
    introduced? (typedDocumentImport settings) = some ("DocumentNode", .documentType) :=
  introduced?_documentType (by decide) (by decide) (toList_typedDocumentImport settings)

theorem introduced?_entryLine (e : String × String) : introduced? (entryLine space e) = none := by
  simp [introduced?, behind?, List.isPrefixOf?, toList_entryLine]

theorem signature?_entryLine (e : String × String) : signature? (entryLine space e) = none := by
  simp [signature?, behind?, List.isPrefixOf?, toList_entryLine]

theorem returned?_entryLine (e : String × String) : returned? (entryLine space e) = none := by
  simp [returned?, behind?, List.isPrefixOf?, toList_entryLine]

theorem exists_registryLines_eq_cons (r : Registry) (name space : String) :
    ∃ line rest others, registryLines r name space = line :: others ∧
      line.toList = "export const ".toList ++ (name.toList ++ ' ' :: rest) ∧
      ∀ l ∈ others, l = "\x7d;" ∨ ∃ e, l = entryLine space e := by
  unfold registryLines
  split_ifs
  · exact ⟨_, "= \x7b\x7d;".toList, [], rfl, by simp [toString], by simp⟩
  · refine ⟨_, "= \x7b".toList, _, List.cons_append, by simp [toString], fun l hl => ?_⟩
    simp only [List.mem_append, List.mem_map, List.mem_singleton] at hl
    obtain ⟨e, _, rfl⟩ | rfl := hl
    · exact .inr ⟨e, rfl⟩
    · exact .inl rfl

theorem filterMap_registryLines (read : String → Option β) (r : Registry) (name space : String)
    (hc : read "\x7d;" = none) (he : ∀ e, read (entryLine space e) = none) :
    ∃ line rest, line.toList = "export const ".toList ++ (name.toList ++ ' ' :: rest) ∧
      (registryLines r name space).filterMap read = (read line).toList := by
  obtain ⟨line, rest, others, hl, ht, ho⟩ := exists_registryLines_eq_cons r name space
  have hn : others.filterMap read = [] := by
    rw [List.filterMap_eq_nil_iff]
    intro l hl
    obtain rfl | ⟨e, rfl⟩ := ho l hl
    · exact hc
    · exact he e
  refine ⟨line, rest, ht, ?_⟩
  rw [hl, List.filterMap_cons, hn]
  cases read line <;> rfl

theorem filterMap_standaloneLines (m : GeneratedModule) (hb : read "" = none)
    (ht : documentTypeLines.filterMap read = []) :
    m.standaloneLines.filterMap read =
      [definitionsImport m.settings, typedDocumentImport m.settings].filterMap read ++
      (registryLines m.registry m.settings.registryIdentifier
        m.settings.definitionsNamespace).filterMap read ++
      m.declarations.filterMap read ++ (lookupLines m.settings).filterMap read := by
  have hl : m.standaloneLines =
      [definitionsImport m.settings, typedDocumentImport m.settings] ++ [""] ++
        registryLines m.registry m.settings.registryIdentifier m.settings.definitionsNamespace ++
        [""] ++ m.declarations ++ lookupLines m.settings ++ [""] ++ documentTypeLines := rfl
  have he : [""].filterMap read = [] := by simp [hb]
  simp only [hl, List.filterMap_append, he, ht, List.append_nil]

end Lines

theorem isWord_freeName {preferred : String} (h : isWord preferred) (taken : List String) :
    isWord (freeName preferred taken) := by
  refine List.all_eq_true.mpr fun c hc => ?_
  obtain hc | rfl := mem_toList_freeName hc
  · exact List.all_eq_true.mp h c hc
  · rfl

theorem isWord_definitionsNamespace (settings : EmitterSettings) :
    isWord settings.definitionsNamespace :=
  isWord_freeName (by decide) _

theorem introduced?_definitionsImport (settings : EmitterSettings) :
    introduced? (definitionsImport settings) =
      some (settings.definitionsNamespace, .definitions) :=
  introduced?_definitions (isWord_definitionsNamespace settings) (by decide)
    (toList_definitionsImport settings)

namespace EmitterSettings

theorem namesApart_iff (s : EmitterSettings) :
    s.NamesApart ↔ s.tagFunction ≠ "DocumentNode" ∧ s.registryName ≠ "DocumentNode" ∧
      (s.registryName = "source" → s.tagFunction = "source") := by
  have hs : s.registryIdentifier = "source" ↔ s.registryName = "source" ∧
      s.tagFunction ≠ "source" := s.registryIdentifier_eq_iff (by decide)
  have hd : s.registryIdentifier = "DocumentNode" ↔ s.registryName = "DocumentNode" ∧
      s.tagFunction ≠ "DocumentNode" := s.registryIdentifier_eq_iff (by decide)
  constructor
  · rintro ⟨hn, hp⟩
    simp only [List.nodup_cons, List.mem_cons, not_or] at hn
    obtain ⟨⟨-, -, hr, -⟩, -, ⟨ht, -⟩, -⟩ := hn
    exact ⟨ht, fun h => hr (hd.mpr ⟨h, ht⟩), fun h => not_not.mp fun hf => hp (hs.mpr ⟨h, hf⟩)⟩
  · rintro ⟨ht, hr, hp⟩
    refine ⟨?_, fun h => (hs.mp h).2 (hp (hs.mp h).1)⟩
    have hg : s.definitionsNamespace ≠ "DocumentNode" :=
      s.definitionsNamespace_ne (by decide) (by decide)
    simp only [List.nodup_cons, List.mem_cons, List.not_mem_nil, or_false, not_or,
      not_false_eq_true, and_true, List.nodup_nil]
    exact ⟨⟨s.definitionsNamespace_ne_registryIdentifier.symm,
      s.registryIdentifier_ne_tagFunction, fun h => hr (hd.mp h).1⟩,
      ⟨s.definitionsNamespace_ne_tagFunction, hg⟩, ht⟩

namespace Named

variable {settings : EmitterSettings} (h : settings.Named)
include h

theorem registryIdentifier : isWord settings.registryIdentifier :=
  isWord_freeName h.registryName _

theorem signature?_eq {line : String} {rest : List Char}
    (hl : line.toList = "export function ".toList ++
      (settings.tagFunction.toList ++ ("(source: ".toList ++ rest))) :
    signature? line = some ("source", constant? (": ".toList ++ rest)) := by
  have hf : word (settings.tagFunction.toList ++ ("(source: ".toList ++ rest)) =
      (settings.tagFunction, "(".toList ++ ("source: ".toList ++ rest)) :=
    word_append h.tagFunction (by decide)
  have hp : word ("source: ".toList ++ rest) = ("source", ": ".toList ++ rest) :=
    word_append (w := "source") (by decide) (by decide)
  rw [signature?, hl]
  simp only [behind?_append, Option.bind_eq_bind, Option.bind_some, hf, hp, pure]

theorem constant?_registryIdentifier (text rest : List Char) :
    constant? (": ".toList ++ (literalChars text ++ ("): (typeof ".toList ++
      (settings.registryIdentifier.toList ++ ')' :: rest)))) =
        some settings.registryIdentifier := by
  have hl : ": ".toList ++ (literalChars text ++ ("): (typeof ".toList ++
      (settings.registryIdentifier.toList ++ ')' :: rest))) =
      ": \"".toList ++ (text.flatMap escape ++ '"' :: ("): (typeof ".toList ++
        (settings.registryIdentifier.toList ++ ')' :: rest))) := by
    rw [literalChars_append]
    rfl
  have hw : word (settings.registryIdentifier.toList ++ ')' :: rest) =
      (settings.registryIdentifier, ')' :: rest) :=
    word_append h.registryIdentifier (by decide)
  rw [constant?, hl]
  simp only [behind?_append, stringRest_flatMap_escape, Except.toOption, Option.bind_eq_bind,
    Option.bind_some, hw, pure]

theorem signature?_ofEntry (e : String × String) :
    signature? ((Overload.ofEntry .standalone settings e).declaration settings.tagFunction) =
      some ("source", some settings.registryIdentifier) := by
  rw [h.signature?_eq (Overload.toList_declaration ..)]
  have hc := h.constant?_registryIdentifier e.1.toList ("[" ++ literal e.1 ++ "];").toList
  simpa [Overload.ofEntry, ParamType.render, ReturnType.render_registryIndex] using hc

theorem signature?_catchAll :
    signature? (Overload.catchAll.declaration settings.tagFunction) = some ("source", none) := by
  rw [h.signature?_eq (Overload.toList_declaration ..)]
  rfl

theorem introduced?_declaration (o : Overload) :
    introduced? (o.declaration settings.tagFunction) = some (settings.tagFunction, .tagFunction) :=
  introduced?_tagFunction h.tagFunction (c := '(') (by decide) (Overload.toList_declaration ..)

theorem filterMap_introduced?_lookupLines :
    (lookupLines settings).filterMap introduced? = [(settings.tagFunction, .tagFunction)] := by
  have ho : introduced? (lookupOpening settings) = some (settings.tagFunction, .tagFunction) :=
    introduced?_tagFunction h.tagFunction (c := '(') (by decide) (toList_lookupOpening settings)
  have hb : introduced? (lookupBody settings) = none := by
    simp [introduced?, toList_lookupBody, behind?, List.isPrefixOf?]
  rw [lookupLines_eq, List.filterMap_cons, ho, List.filterMap_cons, hb]
  rfl

theorem filterMap_signature?_lookupLines :
    (lookupLines settings).filterMap signature? = [("source", none)] := by
  have ho := h.signature?_eq (toList_lookupOpening settings)
  have hb : signature? (lookupBody settings) = none := by
    simp [signature?, toList_lookupBody, behind?, List.isPrefixOf?]
  rw [lookupLines_eq, List.filterMap_cons, ho, List.filterMap_cons, hb]
  rfl

theorem filterMap_returned?_lookupLines :
    (lookupLines settings).filterMap returned? = [(settings.registryIdentifier, "source")] := by
  have ho : returned? (lookupOpening settings) = none := by
    simp [returned?, toList_lookupOpening, behind?, List.isPrefixOf?]
  have hb : returned? (lookupBody settings) = some (settings.registryIdentifier, "source") := by
    rw [returned?, toList_lookupBody]
    simp only [behind?_append, Option.bind_eq_bind, Option.bind_some,
      word_append h.registryIdentifier (c := ' ') (by decide)]
    rfl
  rw [lookupLines_eq, List.filterMap_cons, ho, List.filterMap_cons, hb]
  rfl

end Named

end EmitterSettings

namespace GeneratedModule

variable {m : GeneratedModule}

theorem lines_eq_standaloneLines (h : m.settings.mode = .standalone) :
    m.lines = m.settings.header.toList ++ m.standaloneLines := by
  simp only [lines, h]

theorem returned?_declaration (m : GeneratedModule) : m.declarations.filterMap returned? = [] := by
  rw [List.filterMap_eq_nil_iff, declarations, List.forall_mem_map]
  intro o _
  simp [returned?, Overload.toList_declaration, behind?, List.isPrefixOf?]

section Names

variable (h : m.settings.Named)
include h

theorem filterMap_introduced?_standaloneLines :
    m.standaloneLines.filterMap introduced? =
      (m.settings.definitionsNamespace, .definitions) :: ("DocumentNode", .documentType) ::
        (m.settings.registryIdentifier, .registry) ::
          List.replicate (m.registry.size + 2) (m.settings.tagFunction, .tagFunction) := by
  obtain ⟨line, rest, hl, hr⟩ := filterMap_registryLines introduced? m.registry
    m.settings.registryIdentifier m.settings.definitionsNamespace (by decide) introduced?_entryLine
  have hd : introduced? ∘ Overload.declaration m.settings.tagFunction =
      fun _ => some (m.settings.tagFunction, .tagFunction) := funext h.introduced?_declaration
  have hn := m.length_declarations
  rw [declarations, List.length_map] at hn
  rw [filterMap_standaloneLines m (by decide) (by decide), hr,
    introduced?_registry h.registryIdentifier (by decide) hl, h.filterMap_introduced?_lookupLines,
    declarations, List.filterMap_map, hd]
  simp [introduced?_definitionsImport, introduced?_typedDocumentImport, hn, Registry.size,
    ← List.replicate_succ']

theorem filterMap_signature?_standaloneLines (hm : m.settings.mode = .standalone) :
    m.standaloneLines.filterMap signature? =
      List.replicate m.registry.size ("source", some m.settings.registryIdentifier) ++
        List.replicate 2 ("source", none) := by
  obtain ⟨line, rest, hl, hr⟩ := filterMap_registryLines signature? m.registry
    m.settings.registryIdentifier m.settings.definitionsNamespace (by decide) signature?_entryLine
  have hn : signature? line = none := by
    simp [signature?, behind?, List.isPrefixOf?, hl]
  have hs : signature? ∘ Overload.declaration m.settings.tagFunction ∘
      Overload.ofEntry .standalone m.settings =
        fun _ => some ("source", some m.settings.registryIdentifier) := funext h.signature?_ofEntry
  have hd : m.declarations.filterMap signature? =
      List.replicate m.registry.size ("source", some m.settings.registryIdentifier) ++
        [("source", none)] := by
    simp only [declarations, overloads, hm, Overload.all, List.map_append, List.filterMap_append,
      List.filterMap_map, List.map_map, hs]
    simp [h.signature?_catchAll, Registry.size]
  rw [filterMap_standaloneLines m (by decide) (by decide), hr, hn, hd,
    h.filterMap_signature?_lookupLines]
  simp [signature?, toList_definitionsImport, toList_typedDocumentImport, behind?,
    List.isPrefixOf?]

theorem filterMap_returned?_standaloneLines :
    m.standaloneLines.filterMap returned? = [(m.settings.registryIdentifier, "source")] := by
  obtain ⟨line, rest, hl, hr⟩ := filterMap_registryLines returned? m.registry
    m.settings.registryIdentifier m.settings.definitionsNamespace (by decide) returned?_entryLine
  have hn : returned? line = none := by
    simp [returned?, behind?, List.isPrefixOf?, hl]
  rw [filterMap_standaloneLines m (by decide) (by decide), hr, hn, returned?_declaration,
    h.filterMap_returned?_lookupLines]
  simp [returned?, toList_definitionsImport, toList_typedDocumentImport, behind?, List.isPrefixOf?]

theorem introducedAs_definitionsNamespace :
    introducedAs m.standaloneLines m.settings.definitionsNamespace = [.definitions] := by
  have hf := m.settings.definitionsNamespace_ne_tagFunction
  have hr := m.settings.definitionsNamespace_ne_registryIdentifier
  have hd : m.settings.definitionsNamespace ≠ "DocumentNode" :=
    m.settings.definitionsNamespace_ne (by decide) (by decide)
  rw [introducedAs, filterMap_introduced?_standaloneLines h]
  simp [hf.symm, hr.symm, hd.symm, List.eraseDups_cons]

theorem introducedAs_registryIdentifier_iff :
    introducedAs m.standaloneLines m.settings.registryIdentifier = [.registry] ↔
      m.settings.registryIdentifier ≠ "DocumentNode" := by
  have hf := m.settings.registryIdentifier_ne_tagFunction
  have hs := m.settings.definitionsNamespace_ne_registryIdentifier
  rw [introducedAs, filterMap_introduced?_standaloneLines h]
  by_cases hd : m.settings.registryIdentifier = "DocumentNode"
  · simp [hs, hf.symm, ← hd]
    decide
  · simp [hs, hf.symm, hd, Ne.symm hd, List.eraseDups_cons]

theorem meanings_registryIdentifier_iff :
    meanings m.standaloneLines "source" m.settings.registryIdentifier = [.registry] ↔
      m.settings.registryIdentifier ≠ "source" ∧
        m.settings.registryIdentifier ≠ "DocumentNode" := by
  unfold meanings
  split_ifs with hp
  · simp [hp]
  · rw [introducedAs_registryIdentifier_iff h]
    exact (and_iff_right hp).symm

end Names

/-- In a standalone module whose settings hold names, the names of the registry, of the namespace
and of the tag function are three different ones, every overload but the last looks its result up in
the registry constant, and the function returns what is found in it. These names are told from that
of the imported type and from the parameter unless one of them is chosen for the registry or the
function. -/
theorem standalone_names (settings : EmitterSettings) (sources : List Source)
    (h : settings.Named) :
    let m := ofSources { settings with augmentedModule := none } sources
    let registry := settings.registryIdentifier
    let space := settings.definitionsNamespace
    let function := settings.tagFunction
    (∃ lines, m.lines = settings.header.toList ++ lines ∧
      lines.filterMap introduced? = (space, .definitions) :: ("DocumentNode", .documentType) ::
        (registry, .registry) :: List.replicate (m.registry.size + 2) (function, .tagFunction) ∧
      lines.filterMap signature? = List.replicate m.registry.size ("source", some registry) ++
        List.replicate 2 ("source", none) ∧
      lines.filterMap returned? = [(registry, "source")] ∧
      (meanings lines "source" registry = [.registry] ↔
        registry ≠ "source" ∧ registry ≠ "DocumentNode")) ∧
    [registry, space, function].Nodup ∧ space ≠ "DocumentNode" ∧
    (settings.NamesApart ↔ function ≠ "DocumentNode" ∧ settings.registryName ≠ "DocumentNode" ∧
      (settings.registryName = "source" → function = "source")) := by
  intro m registry space function
  have hm : m.settings.Named := ⟨h.registryName, h.tagFunction⟩
  have hs := settings.definitionsNamespace_ne_registryIdentifier
  refine ⟨⟨m.standaloneLines, lines_eq_standaloneLines rfl,
    filterMap_introduced?_standaloneLines hm,
    filterMap_signature?_standaloneLines hm rfl, filterMap_returned?_standaloneLines hm,
    meanings_registryIdentifier_iff hm⟩, ?_, ?_, settings.namesApart_iff⟩
  · simp [registry, space, function, settings.registryIdentifier_ne_tagFunction, hs.symm,
      settings.definitionsNamespace_ne_tagFunction]
  · exact settings.definitionsNamespace_ne (by decide) (by decide)

/-- The function has the preferred names of both the registry and the namespace. -/
theorem standalone_names_of_taken_names :
    let settings : EmitterSettings := { registryName := "graphql", tagFunction := "graphql" }
    let lines := (ofSources settings [⟨"{ a }", "A"⟩]).lines
    settings.NamesApart ∧ meanings lines "source" settings.registryIdentifier = [.registry] ∧
      lines.filterMap returned? = [(settings.registryIdentifier, "source")] := by
  intro settings lines
  have hn : settings.Named := ⟨by decide, by decide⟩
  obtain ⟨⟨ls, hl, -, -, hr, hi⟩, -, -, ha⟩ := standalone_names settings [⟨"{ a }", "A"⟩] hn
  have hl : lines = ls := hl
  have ha := ha.mpr (by decide)
  have hd : settings.registryIdentifier ≠ "DocumentNode" := fun hd => by
    simpa [hd] using ha.nodup
  rw [hl]
  exact ⟨ha, hi.mpr ⟨ha.ne_parameter, hd⟩, hr⟩

/-- A registry called like the parameter is hidden by it, and the function looks the given text up
in that text. -/
theorem registry_hidden_by_parameter :
    let settings : EmitterSettings := { registryName := "source" }
    let lines := (ofSources settings [⟨"{ a }", "A"⟩]).lines
    settings.Named ∧ settings.registryIdentifier = "source" ∧ ¬ settings.NamesApart ∧
      lines.filterMap returned? = [("source", "source")] ∧
      lines.filterMap signature? = [("source", some "source"), ("source", none), ("source", none)] ∧
      meanings lines "source" "source" = [.parameter] := by
  intro settings lines
  have hn : settings.Named := ⟨by decide, by decide⟩
  have hr : settings.registryIdentifier = "source" := freeName_of_not_mem (by decide)
  have ht : lines.filterMap returned? = [(settings.registryIdentifier, "source")] :=
    filterMap_returned?_standaloneLines (m := ofSources settings [⟨"{ a }", "A"⟩]) hn
  have hs : lines.filterMap signature? = List.replicate 1 ("source", some
      settings.registryIdentifier) ++ List.replicate 2 ("source", none) :=
    filterMap_signature?_standaloneLines (m := ofSources settings [⟨"{ a }", "A"⟩]) hn rfl
  rw [hr] at ht hs
  exact ⟨hn, hr, fun h => h.ne_parameter hr, ht, hs, rfl⟩

end GeneratedModule

end TypedTag
