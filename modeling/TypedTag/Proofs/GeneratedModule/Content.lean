import TypedTag.Proofs.GeneratedModule.RegistryLiteral
import TypedTag.Proofs.Registry.Occurrences

/-! # The registry behind a text

An entry is written on a line that delimits itself, both in the registry literal and among the
overloads of an augmented module. So the entries are known from the text of a module, even if the
texts they hold look like other lines.
-/

namespace TypedTag

open Text

def entryPiece (before between : String) (last : Char) (e : String × String) : List Char :=
  before.toList ++ (literalChars e.1.toList ++ (between.toList ++ (e.2.toList ++ [last, '\n'])))

theorem entryPiece_append_inj {before between : String} {last : Char} (hl : last ≠ '\n')
    {e f : String × String} {u v : List Char} (he : '\n' ∉ e.2.toList) (hf : '\n' ∉ f.2.toList)
    (h : entryPiece before between last e ++ u = entryPiece before between last f ++ v) :
    e = f ∧ u = v := by
  simp only [entryPiece, List.append_assoc] at h
  obtain ⟨ht, h⟩ := literalChars_append_inj (List.append_cancel_left h)
  have hd : e.2.toList ++ [last] ++ '\n' :: u = f.2.toList ++ [last] ++ '\n' :: v := by
    simpa using List.append_cancel_left h
  obtain ⟨hd, huv⟩ := append_cons_inj (by simp [he, hl.symm]) (by simp [hf, hl.symm]) hd
  have hd := String.toList_inj.mp (List.append_cancel_right hd)
  exact ⟨Prod.ext (String.toList_inj.mp ht) hd, huv⟩

theorem terminated_entryLine (space : String) (e : String × String) :
    terminated (entryLine space e) = entryPiece "    " (": " ++ space ++ ".") ',' e := by
  simp [terminated, toList_entryLine, memberText, entryPiece]

theorem Overload.toList_declaration (function : String) (o : Overload) :
    (o.declaration function).toList = "export function ".toList ++ (function.toList ++
      ("(source: ".toList ++ (o.param.render.toList ++ ("): ".toList ++
        (o.result.render.toList ++ [';']))))) := by
  unfold Overload.declaration
  simp only [String.toList_append, toString, List.append_assoc]
  rfl

theorem ReturnType.render_definitionRef (moduleName definition : String) :
    (definitionRef moduleName definition).render =
      "typeof import('" ++ moduleName ++ "')." ++ definition := rfl

theorem toList_indent {line : String} (h : line.toList ≠ []) :
    (indent line).toList = ' ' :: ' ' :: line.toList := by
  have he : line.isEmpty = false := by simpa using h
  rw [indent, he]
  simp

theorem terminated_indent_declaration (settings : EmitterSettings) (moduleName : String)
    (e : String × String) :
    terminated (indent
        ((Overload.ofEntry (.augmenting moduleName) settings e).declaration settings.tagFunction)) =
      entryPiece ("  export function " ++ settings.tagFunction ++ "(source: ")
        ("): typeof import('" ++ settings.definitionsModule ++ "').") ';' e := by
  rw [terminated, toList_indent (by simp [Overload.toList_declaration]),
    Overload.toList_declaration]
  simp [Overload.ofEntry, ParamType.render, ReturnType.render_definitionRef, entryPiece]

theorem flatMap_terminated_registryLines (registry : Registry) (name space : String) :
    (registryLines registry name space).flatMap terminated = (registryOpening name).toList ++
      if registry.entries.isEmpty then "\x7d;\n".toList
      else '\n' :: (registry.entries.flatMap (entryPiece "    " (": " ++ space ++ ".") ',') ++
        "\x7d;\n".toList) := by
  unfold registryLines registryOpening
  split_ifs
  · simp [terminated, toString]
  · have he : (fun e => terminated (entryLine space e)) =
        entryPiece "    " (": " ++ space ++ ".") ',' := funext (terminated_entryLine space)
    rw [List.cons_append, List.flatMap_cons, List.flatMap_append, List.flatMap_map, he]
    simp [terminated, toString]

section Entries

variable {r r' : Registry} {u v : List Char}

theorem entries_eq_of_registryLines {name space : String}
    (hr : ∀ e ∈ r.entries, '\n' ∉ e.2.toList) (hr' : ∀ e ∈ r'.entries, '\n' ∉ e.2.toList)
    (h : (registryLines r name space).flatMap terminated ++ u =
      (registryLines r' name space).flatMap terminated ++ v) : r.entries = r'.entries := by
  rw [flatMap_terminated_registryLines, flatMap_terminated_registryLines, List.append_assoc,
    List.append_assoc] at h
  have h := List.append_cancel_left h
  split_ifs at h with h₁ h₂ h₂
  · rw [List.isEmpty_iff.mp h₁, List.isEmpty_iff.mp h₂]
  · simp at h
  · simp at h
  · rw [List.cons_append, List.cons_append, List.append_assoc, List.append_assoc] at h
    obtain ⟨_, h⟩ := List.cons.inj h
    exact (flatMap_append_inj (entryPiece_append_inj (by decide)) hr hr' (by simp [entryPiece])
      (by simp [entryPiece]) h).1

namespace GeneratedModule

theorem lines_ne_nil (m : GeneratedModule) : m.lines ≠ [] := by
  unfold lines
  cases m.settings.mode <;> simp [standaloneLines, augmentingLines]

theorem toList_content (m : GeneratedModule) : m.content.toList = m.lines.flatMap terminated := by
  have hn : m.lines.map String.toList ≠ [] := by simpa using m.lines_ne_nil
  rw [content, body, String.toList_append, String.toList_intercalate,
    intercalate_append_eq_flatMap hn, List.flatMap_map]
  rfl

variable {settings : EmitterSettings}

theorem flatMap_terminated_declarations {moduleName : String}
    (h : settings.mode = .augmenting moduleName) (r : Registry) :
    ((⟨settings, r⟩ : GeneratedModule).declarations.map indent).flatMap terminated =
      r.entries.flatMap (entryPiece ("  export function " ++ settings.tagFunction ++ "(source: ")
        ("): typeof import('" ++ settings.definitionsModule ++ "').") ';') ++
      terminated (indent (Overload.catchAll.declaration settings.tagFunction)) := by
  have he : (fun e => terminated (indent
      ((Overload.ofEntry (.augmenting moduleName) settings e).declaration settings.tagFunction))) =
      entryPiece ("  export function " ++ settings.tagFunction ++ "(source: ")
        ("): typeof import('" ++ settings.definitionsModule ++ "').") ';' :=
    funext (terminated_indent_declaration settings moduleName)
  simp only [declarations, overloads, Overload.all, h, List.map_append, List.map_map,
    List.flatMap_append, List.flatMap_map, ← he]
  simp

theorem terminated_catchAll_ne (settings : EmitterSettings) (between : String) (last : Char)
    (e : String × String) (w : List Char) :
    terminated (indent (Overload.catchAll.declaration settings.tagFunction)) ++ u ≠
      entryPiece ("  export function " ++ settings.tagFunction ++ "(source: ") between last e ++
        w := by
  rw [terminated, toList_indent (by simp [Overload.toList_declaration]),
    Overload.toList_declaration]
  simp [entryPiece, literalChars, Overload.catchAll, ParamType.render]

theorem entries_eq_of_content (hr : ∀ e ∈ r.entries, '\n' ∉ e.2.toList)
    (hr' : ∀ e ∈ r'.entries, '\n' ∉ e.2.toList)
    (h : (⟨settings, r⟩ : GeneratedModule).content = (⟨settings, r'⟩ : GeneratedModule).content) :
    r.entries = r'.entries := by
  have h := congrArg String.toList h
  rw [toList_content, toList_content] at h
  cases hm : settings.mode with
  | standalone =>
    simp only [lines, hm, standaloneLines, List.flatMap_append, List.append_assoc] at h
    have h := List.append_cancel_left (List.append_cancel_left h)
    exact entries_eq_of_registryLines hr hr' h
  | augmenting moduleName =>
    simp only [lines, hm, augmentingLines, List.map_append, List.flatMap_append, List.append_assoc,
      flatMap_terminated_declarations hm] at h
    have h := List.append_cancel_left (List.append_cancel_left h)
    exact (flatMap_append_inj (entryPiece_append_inj (by decide)) hr hr'
      (terminated_catchAll_ne settings _ _) (terminated_catchAll_ne settings _ _) h).1

theorem content_congr (h : r.entries = r'.entries) :
    (⟨settings, r⟩ : GeneratedModule).content = (⟨settings, r'⟩ : GeneratedModule).content := by
  simp only [content, body, lines, standaloneLines, augmentingLines, declarations, overloads,
    Overload.all, registryLines, h]

/-- If no definition has a line break, two modules with the same settings have the same text just
when their registries have the same entries. -/
theorem content_eq_iff_entries_eq (settings : EmitterSettings) (xs ys : List Source)
    (hx : ∀ s ∈ xs, '\n' ∉ s.definition.toList) (hy : ∀ s ∈ ys, '\n' ∉ s.definition.toList) :
    (ofSources settings xs).content = (ofSources settings ys).content ↔
      (Registry.ofSources settings.policy xs).entries =
        (Registry.ofSources settings.policy ys).entries := by
  constructor
  · intro h
    refine entries_eq_of_content (fun e he => ?_) (fun e he => ?_) h
    · exact hx _ (Registry.mem_sources_of_mem_entries he)
    · exact hy _ (Registry.mem_sources_of_mem_entries he)
  · intro h
    exact content_congr h

/-- A text that looks like two entry lines is told from two entries, and a definition that does not
win leaves no trace. -/
theorem content_of_lookalike_text :
    let xs : List Source := [⟨"a\": graphql.A,\n    \"b", "B"⟩]
    let ys : List Source := [⟨"a", "A"⟩, ⟨"b", "B"⟩]
    let zs : List Source := [⟨"a", "A"⟩, ⟨"b", "B"⟩, ⟨"a", "C"⟩]
    (ofSources {} xs).content ≠ (ofSources {} ys).content ∧
      (ofSources {} ys).content = (ofSources {} zs).content := by
  intro xs ys zs
  have hx : ∀ s ∈ xs, '\n' ∉ s.definition.toList := by decide
  have hy : ∀ s ∈ ys, '\n' ∉ s.definition.toList := by decide
  have hz : ∀ s ∈ zs, '\n' ∉ s.definition.toList := by decide
  constructor
  · intro h
    have he := (content_eq_iff_entries_eq {} xs ys hx hy).mp h
    exact absurd he (by decide)
  · have he : (Registry.ofSources .firstWins ys).entries =
        (Registry.ofSources .firstWins zs).entries := by decide
    exact (content_eq_iff_entries_eq {} ys zs hy hz).mpr he

end GeneratedModule

end Entries

end TypedTag
