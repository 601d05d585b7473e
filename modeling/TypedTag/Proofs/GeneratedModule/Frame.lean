import TypedTag.Proofs.GeneratedModule.Modes

/-! # Modules with the definitions left out

The settings and the registered texts determine a module up to the definitions of the texts. Each
of these stands in one line: the entry of the text in the registry literal or, in a module that
augments another one, the overload for it. So two policies make modules of as many lines, and only
the lines of those texts differ whose first and last definitions do.
-/

namespace TypedTag

open Text

/-- A line of a module, or what stands around the definition of a text in it. -/
inductive FrameLine
  | fixed (line : String)
  | gap (before text after : String)
  deriving DecidableEq, Repr

namespace FrameLine

def fill (definition : String → String) : FrameLine → String
  | fixed line => line
  | gap before text after => before ++ definition text ++ after

def text? : FrameLine → Option String
  | fixed _ => none
  | gap _ text _ => some text

theorem filterMap_text?_fixed (ls : List String) : (ls.map fixed).filterMap text? = [] := by
  rw [List.filterMap_map]
  exact List.filterMap_eq_nil_iff.mpr fun _ _ => rfl

theorem map_fill_fixed (definition : String → String) (ls : List String) :
    (ls.map fixed).map (fill definition) = ls := by
  rw [List.map_map]
  exact List.map_id ls

section TwoFillings

variable {frame : List FrameLine} {k : Nat}

theorem getElem?_map_fill_of_gap {before t after : String}
    (h : frame[k]? = some (gap before t after)) (f : String → String) :
    (frame.map (fill f))[k]? = some (before ++ f t ++ after) := by
  rw [List.getElem?_map, h]
  rfl

theorem getElem?_map_fill_ne_iff (f g : String → String) :
    (frame.map (fill f))[k]? ≠ (frame.map (fill g))[k]? ↔
      ∃ before t after, frame[k]? = some (gap before t after) ∧ f t ≠ g t := by
  rw [List.getElem?_map, List.getElem?_map]
  cases frame[k]? with
  | none => simp
  | some line =>
    cases line with
    | fixed line => simp [fill]
    | gap before t after =>
      have hg : before ++ f t ++ after = before ++ g t ++ after ↔ f t = g t := by
        simp [← String.toList_inj]
      simp [fill, hg]

end TwoFillings

end FrameLine

section Rows

theorem splitOn_append_of_not_mem {α : Type} [DecidableEq α] {a : α} {v : List α} (h : a ∉ v)
    (u : List α) :
    (u ++ v).splitOn a = (u.splitOn a).dropLast ++ [(u.splitOn a).getLastD [] ++ v] := by
  induction u with
  | nil => simp [List.splitOn_eq_singleton h]
  | cons c u ih =>
    obtain ⟨l, ls, hl⟩ := List.exists_cons_of_ne_nil (List.splitOn_ne_nil a u)
    rw [List.cons_append, List.splitOn_cons_eq_if_modifyHead, List.splitOn_cons_eq_if_modifyHead,
      ih, hl]
    split_ifs
    · simp
    · cases ls <;> simp

theorem rows_append {v : String} (h : '\n' ∉ v.toList) (u : String) :
    rows (u ++ v) = (rows u).dropLast ++ [(rows u).getLastD "" ++ v] := by
  have hl : (rows u).getLastD "" = String.ofList ((u.toList.splitOn '\n').getLastD []) := by
    rw [rows, List.getLastD_eq_getLast?, List.getLastD_eq_getLast?, List.getLast?_map]
    cases (u.toList.splitOn '\n').getLast? <;> rfl
  rw [hl, rows, rows, String.toList_append, splitOn_append_of_not_mem h, List.map_append,
    List.map_dropLast, List.map_singleton, String.ofList_append, String.ofList_toList]

end Rows

namespace EmitterSettings

variable (settings : EmitterSettings) (texts : List String)

def definitionLine (e : String × String) : String :=
  match settings.mode with
  | .standalone => entryLine settings.definitionsNamespace e
  | .augmenting _ =>
    indent ((Overload.ofEntry settings.mode settings e).declaration settings.tagFunction)

/-- The part of that line before the definition. Settings with line breaks put it on several. -/
def beforeDefinition (text : String) : String :=
  match settings.mode with
  | .standalone => "    " ++ literal text ++ ": " ++ settings.definitionsNamespace ++ "."
  | .augmenting _ => "  export function " ++ settings.tagFunction ++ "(source: " ++ literal text ++
      "): typeof import('" ++ settings.definitionsModule ++ "')."

def afterDefinition : String :=
  match settings.mode with
  | .standalone => ","
  | .augmenting _ => ";"

def overloadLines : List String :=
  texts.map (fun t => declarationText settings.tagFunction (literal t)
      (ReturnType.registryIndex settings.registryIdentifier t).render) ++
    [declarationText settings.tagFunction "string" "unknown"]

def linesAbove : List String :=
  settings.header.toList ++
    match settings.mode with
    | .standalone =>
      [s!"import * as {settings.definitionsNamespace} from '{settings.definitionsModule}';",
       typedDocumentImport settings, "", registryOpening settings.registryIdentifier ++
        if texts.isEmpty then "\x7d;" else ""]
    | .augmenting moduleName =>
      [typedDocumentImport settings, "", "declare module " ++ literal moduleName ++ " \x7b"]

def linesBelow : List String :=
  match settings.mode with
  | .standalone =>
    (if texts.isEmpty then [] else ["\x7d;"]) ++ [""] ++ settings.overloadLines texts ++
      lookupLines settings ++ [""] ++ documentTypeLines
  | .augmenting _ =>
    let catchAll := declarationText settings.tagFunction "string" "unknown"
    ([catchAll, ""] ++ documentTypeLines).map indent ++ ["\x7d"]

def gapLines (text : String) : List FrameLine :=
  (rows (settings.beforeDefinition text)).dropLast.map .fixed ++
    [.gap ((rows (settings.beforeDefinition text)).getLastD "") text settings.afterDefinition]

/-- The lines of a module that registers these texts, with gaps for the definitions. -/
def frame : List FrameLine :=
  ((settings.linesAbove texts).flatMap rows).map .fixed ++ texts.flatMap settings.gapLines ++
    ((settings.linesBelow texts).flatMap rows).map .fixed

theorem frame_of_standalone (h : settings.mode = .standalone) :
    ∃ above, settings.frame texts = above ++ ((settings.overloadLines texts ++
      lookupLines settings ++ [""] ++ documentTypeLines).flatMap rows).map .fixed := by
  refine ⟨((settings.linesAbove texts).flatMap rows).map .fixed ++
    texts.flatMap settings.gapLines ++
    (((if texts.isEmpty then [] else ["\x7d;"]) ++ [""]).flatMap rows).map .fixed, ?_⟩
  rw [frame, linesBelow, h]
  simp only [List.append_assoc, List.flatMap_append, List.map_append]

variable {settings texts}

theorem definitionLine_eq (settings : EmitterSettings) (e : String × String) :
    settings.definitionLine e =
      settings.beforeDefinition e.1 ++ e.2 ++ settings.afterDefinition := by
  unfold definitionLine beforeDefinition afterDefinition
  rw [← String.toList_inj]
  cases settings.mode with
  | standalone => simp [toList_entryLine, memberText]
  | augmenting moduleName =>
    rw [toList_indent (by simp [Overload.toList_declaration]), Overload.toList_declaration]
    simp [Overload.ofEntry, ParamType.render, ReturnType.render_definitionRef]

theorem rows_definitionLine {e : String × String} (h : '\n' ∉ e.2.toList) :
    rows (settings.definitionLine e) = (rows (settings.beforeDefinition e.1)).dropLast ++
      [(rows (settings.beforeDefinition e.1)).getLastD "" ++ e.2 ++ settings.afterDefinition] := by
  have ha : '\n' ∉ (e.2 ++ settings.afterDefinition).toList := by
    rw [String.toList_append, List.mem_append, not_or]
    refine ⟨h, ?_⟩
    unfold afterDefinition
    cases settings.mode <;> simp
  rw [definitionLine_eq, String.append_assoc, rows_append ha, String.append_assoc]

theorem map_fill_gapLines {definition : String → String} {t : String}
    (h : '\n' ∉ (definition t).toList) :
    (settings.gapLines t).map (FrameLine.fill definition) =
      rows (settings.definitionLine (t, definition t)) := by
  rw [gapLines, List.map_append, FrameLine.map_fill_fixed, rows_definitionLine h]
  rfl

theorem map_fill_frame {definition : String → String}
    (h : ∀ t ∈ texts, '\n' ∉ (definition t).toList) :
    (settings.frame texts).map (FrameLine.fill definition) =
      (settings.linesAbove texts ++
        texts.map (fun t => settings.definitionLine (t, definition t)) ++
        settings.linesBelow texts).flatMap rows := by
  rw [frame, List.map_append, List.map_append, FrameLine.map_fill_fixed, FrameLine.map_fill_fixed,
    List.map_flatMap, List.flatMap_append, List.flatMap_append, List.flatMap_map,
    List.flatMap_congr fun t ht => map_fill_gapLines (h t ht)]

theorem getLast?_of_gap_mem_frame {before t after d : String}
    (hg : .gap before t after ∈ settings.frame texts) (hd : '\n' ∉ d.toList) :
    (rows (settings.definitionLine (t, d))).getLast? = some (before ++ d ++ after) := by
  simp only [frame, gapLines, List.mem_append, List.mem_map, List.mem_flatMap, List.mem_singleton,
    reduceCtorEq, and_false, exists_false, false_or, or_false] at hg
  obtain ⟨_, _, hg⟩ := hg
  cases hg
  rw [rows_definitionLine hd, List.getLast?_concat]

theorem filterMap_text?_gapLines (settings : EmitterSettings) (t : String) :
    (settings.gapLines t).filterMap FrameLine.text? = [t] := by
  rw [gapLines, List.filterMap_append, FrameLine.filterMap_text?_fixed]
  rfl

theorem filterMap_text?_frame (settings : EmitterSettings) (texts : List String) :
    (settings.frame texts).filterMap FrameLine.text? = texts := by
  rw [frame, List.filterMap_append, List.filterMap_append, FrameLine.filterMap_text?_fixed,
    FrameLine.filterMap_text?_fixed, List.filterMap_flatMap]
  simp [filterMap_text?_gapLines]

end EmitterSettings

theorem registryLines_eq (registry : Registry) (name space : String) :
    registryLines registry name space =
      [registryOpening name ++ if (registry.entries.map (·.1)).isEmpty then "\x7d;" else ""] ++
        registry.entries.map (entryLine space) ++
        if (registry.entries.map (·.1)).isEmpty then [] else ["\x7d;"] := by
  rw [registryLines, List.isEmpty_map]
  split_ifs with h
  · rw [List.isEmpty_iff.mp h, registryOpening, @String.append_assoc _ _ "\x7d;"]
    rfl
  · rw [String.append_empty]
    rfl

namespace GeneratedModule

theorem declarations_of_standalone {m : GeneratedModule} (h : m.settings.mode = .standalone) :
    m.declarations = m.settings.overloadLines (m.registry.entries.map (·.1)) := by
  rw [declarations_eq, h, EmitterSettings.overloadLines, List.map_map]
  rfl

/-- The definitions stand in lines of their own, between lines that they have no part in. -/
theorem lines_eq (m : GeneratedModule) :
    m.lines = m.settings.linesAbove (m.registry.entries.map (·.1)) ++
      m.registry.entries.map m.settings.definitionLine ++
      m.settings.linesBelow (m.registry.entries.map (·.1)) := by
  unfold lines EmitterSettings.linesAbove EmitterSettings.linesBelow
  cases hm : m.settings.mode with
  | standalone =>
    have hl : m.settings.definitionLine = entryLine m.settings.definitionsNamespace := by
      funext e
      rw [EmitterSettings.definitionLine, hm]
    simp only [standaloneLines, registryLines_eq, declarations_of_standalone hm, hl,
      List.append_assoc, List.cons_append, List.nil_append]
  | augmenting moduleName =>
    have hl : m.settings.definitionLine = fun e => indent
        ((Overload.ofEntry m.settings.mode m.settings e).declaration m.settings.tagFunction) := by
      funext e
      rw [EmitterSettings.definitionLine, hm]
    simp only [augmentingLines, declarations_eq, hl, List.map_append, List.map_map, List.map_cons,
      List.append_assoc, List.cons_append, List.nil_append]
    rfl

theorem lineFeed_not_mem_chosen {sources : List Source}
    (hd : ∀ s ∈ sources, '\n' ∉ s.definition.toList) (policy : DuplicatePolicy) (t : String) :
    '\n' ∉ ((policy.choose? (definitionsOf t sources)).getD "").toList := by
  rw [← Registry.definition?_ofSources]
  cases h : (Registry.ofSources policy sources).definition? t with
  | none => simp
  | some d => exact hd _ (Registry.mem_sources_of_definition? h)

/-- The text of a module is its frame with the gaps filled by what the policy chooses. -/
theorem linesOf_content_eq_fill (settings : EmitterSettings) {sources : List Source}
    (hd : ∀ s ∈ sources, '\n' ∉ s.definition.toList) :
    linesOf (ofSources settings sources).content =
      (settings.frame (distinctTexts sources)).map (FrameLine.fill fun t =>
        (settings.policy.choose? (definitionsOf t sources)).getD "") := by
  rw [EmitterSettings.map_fill_frame fun t _ => lineFeed_not_mem_chosen hd settings.policy t,
    linesOf_content, lines_eq]
  simp only [ofSources, Registry.keys_ofSources]
  rw [Registry.entries_ofSources, List.map_map]
  rfl

theorem exists_definitions_of_gap {settings : EmitterSettings} {sources : List Source} {k : Nat}
    {before t after : String}
    (h : (settings.frame (distinctTexts sources))[k]? = some (.gap before t after)) :
    ∃ d d', (definitionsOf t sources).head? = some d ∧
      (definitionsOf t sources).getLast? = some d' := by
  have ht : t ∈ (settings.frame (distinctTexts sources)).filterMap FrameLine.text? :=
    List.mem_filterMap.mpr ⟨_, List.mem_of_getElem? h, rfl⟩
  rw [EmitterSettings.filterMap_text?_frame] at ht
  obtain ⟨d, hd⟩ := Registry.exists_definition?_of_mem .firstWins ht
  obtain ⟨d', hd'⟩ := Registry.exists_definition?_of_mem .lastWins ht
  rw [Registry.definition?_ofSources] at hd hd'
  exact ⟨d, d', hd, hd'⟩

/-- What the policy decides shows in the definitions of those texts whose first and last occurrence
differ, and nowhere else. The texts of both modules have as many lines. Two lines at the same place
differ if they hold the definition of such a text, in its entry of the registry literal or else in
its overload, and what stands around the definition is the same. In a standalone module everything
from the overloads on is known from the settings and the registered texts. -/
theorem policies_differ_in_ambiguous_definitions (settings : EmitterSettings)
    (sources : List Source) (hd : ∀ s ∈ sources, '\n' ∉ s.definition.toList) :
    let made := fun p xs => ofSources { settings with policy := p } xs
    let first := linesOf (made .firstWins sources).content
    let last := linesOf (made .lastWins sources).content
    let texts := distinctTexts sources
    let frame := settings.frame texts
    first.length = last.length ∧
    (∀ k : Nat, first[k]? ≠ last[k]? ↔ ∃ before t after,
      frame[k]? = some (.gap before t after) ∧
      (definitionsOf t sources).head? ≠ (definitionsOf t sources).getLast?) ∧
    (∀ (k : Nat) before t after, frame[k]? = some (.gap before t after) → ∃ d d',
      (definitionsOf t sources).head? = some d ∧ (definitionsOf t sources).getLast? = some d' ∧
      first[k]? = some (before ++ d ++ after) ∧ last[k]? = some (before ++ d' ++ after)) ∧
    frame.filterMap FrameLine.text? = texts ∧
    (∀ before t after, FrameLine.gap before t after ∈ frame → ∀ d, '\n' ∉ d.toList →
      (rows (settings.definitionLine (t, d))).getLast? = some (before ++ d ++ after)) ∧
    (settings.mode = .standalone → ∃ n, ∀ p xs, (∀ s ∈ xs, '\n' ∉ s.definition.toList) →
      distinctTexts xs = texts → (made p xs).declarations = settings.overloadLines texts ∧
      (linesOf (made p xs).content).drop n = (settings.overloadLines texts ++
        lookupLines settings ++ [""] ++ documentTypeLines).flatMap rows) := by
  intro made first last texts frame
  have filled (p : DuplicatePolicy) (xs : List Source)
      (hx : ∀ s ∈ xs, '\n' ∉ s.definition.toList) :
      linesOf (made p xs).content = (settings.frame (distinctTexts xs)).map
        (FrameLine.fill fun t => (p.choose? (definitionsOf t xs)).getD "") :=
    linesOf_content_eq_fill { settings with policy := p } hx
  have hf : first = frame.map (FrameLine.fill fun t =>
      ((definitionsOf t sources).head?).getD "") := filled .firstWins sources hd
  have hl : last = frame.map (FrameLine.fill fun t =>
      ((definitionsOf t sources).getLast?).getD "") := filled .lastWins sources hd
  refine ⟨by rw [hf, hl, List.length_map, List.length_map], fun k => ?_,
    fun k before t after hk => ?_, settings.filterMap_text?_frame texts,
    fun _ _ _ hg _ => EmitterSettings.getLast?_of_gap_mem_frame hg, fun hm => ?_⟩
  · rw [hf, hl, FrameLine.getElem?_map_fill_ne_iff]
    refine exists_congr fun before => exists_congr fun t => exists_congr fun after =>
      and_congr_right fun hk => ?_
    obtain ⟨d, d', h, h'⟩ := exists_definitions_of_gap hk
    simp [h, h']
  · obtain ⟨d, d', h, h'⟩ := exists_definitions_of_gap hk
    refine ⟨d, d', h, h', ?_, ?_⟩
    · rw [hf, FrameLine.getElem?_map_fill_of_gap hk, h, Option.getD_some]
    · rw [hl, FrameLine.getElem?_map_fill_of_gap hk, h', Option.getD_some]
  · obtain ⟨above, ha⟩ := settings.frame_of_standalone texts hm
    refine ⟨above.length, fun p xs hx hxs => ⟨?_, ?_⟩⟩
    · rw [declarations_of_standalone hm]
      simp only [made, ofSources, Registry.keys_ofSources, hxs]
      rfl
    · rw [filled p xs hx, hxs, ha, List.map_append, FrameLine.map_fill_fixed,
        ← List.length_map, List.drop_left]

/-- A definition that comes first and last leaves no trace of another one between them. Where the
last one is new, the line goes on with it in the same way, also if the settings break the line. -/
theorem policies_differ_in_broken_lines :
    let settings : EmitterSettings :=
      { augmentedModule := some "m", definitionsModule := "d\n", tagFunction := "\ngql" }
    let sources : List Source :=
      [⟨"a", "A"⟩, ⟨"b", "B"⟩, ⟨"a", "C"⟩, ⟨"b", "D"⟩, ⟨"a", "A"⟩]
    let made := fun p => ofSources { settings with policy := p } sources
    let first := linesOf (made .firstWins).content
    let last := linesOf (made .lastWins).content
    (∀ s ∈ sources, '\n' ∉ s.definition.toList) ∧ first.length = last.length ∧
      (∃ (k : Nat) (before after : String), first[k]? = some (before ++ "A" ++ after) ∧
        last[k]? = some (before ++ "A" ++ after)) ∧
      ∃ (k : Nat) (before after : String), first[k]? = some (before ++ "B" ++ after) ∧
        last[k]? = some (before ++ "D" ++ after) := by
  intro settings sources made first last
  have hd : ∀ s ∈ sources, '\n' ∉ s.definition.toList := by decide
  obtain ⟨hn, -, hg, ht, -, -⟩ := policies_differ_in_ambiguous_definitions settings sources hd
  have shown (t : String) {d d' : String} (hm : t ∈ distinctTexts sources)
      (h : (definitionsOf t sources).head? = some d)
      (h' : (definitionsOf t sources).getLast? = some d') :
      ∃ (k : Nat) (before after : String), first[k]? = some (before ++ d ++ after) ∧
        last[k]? = some (before ++ d' ++ after) := by
    rw [← ht, List.mem_filterMap] at hm
    obtain ⟨_ | ⟨before, t, after⟩, hm, hl⟩ := hm
    · cases hl
    · cases hl
      obtain ⟨k, hk⟩ := List.getElem?_of_mem hm
      obtain ⟨_, _, hf, hl, hfirst, hlast⟩ := hg k before t after hk
      cases h.symm.trans hf
      cases h'.symm.trans hl
      exact ⟨k, before, after, hfirst, hlast⟩
  exact ⟨hd, hn, shown "a" (by decide) (by decide) (by decide),
    shown "b" (by decide) (by decide) (by decide)⟩

end GeneratedModule

end TypedTag
