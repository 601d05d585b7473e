import TypedTag.GeneratedModule
import TypedTag.Proofs.Text.Literal
import TypedTag.Proofs.Text.Delimited

/-! # The registry literal read back

The registry is written as an object literal with one line for each entry. Between the braces every
line reads back as the literal of a text and a member of the namespace.
-/

namespace TypedTag

open Text Json

/-- What a registry literal starts with. Only that of an empty registry goes on in the same line. -/
def registryOpening (name : String) : String :=
  s!"export const {name} = \x7b"

def registryText (registry : Registry) (name space : String) : String :=
  "\n".intercalate (registryLines registry name space)

def innerLines (name text : String) : List (List Char) :=
  ((text.toList.drop (registryOpening name).length).splitOn '\n').tail.dropLast

def readMember? : List Char → Option (String × String)
  | ' ' :: ' ' :: ' ' :: ' ' :: '"' :: body =>
    match stringRest true .none body with
    | .error _ => none
    | .ok (_, rest) =>
      let key := '"' :: body.take (body.length - rest.length)
      match rest with
      | ':' :: ' ' :: value =>
        if value.getLast? = some ',' then
          some (String.ofList key, String.ofList value.dropLast)
        else none
      | _ => none
  | _ => none

def readMembers (name text : String) : List (String × String) :=
  (innerLines name text).filterMap readMember?

def memberText (space definition : String) : String :=
  space ++ "." ++ definition

theorem toList_entryLine (space : String) (e : String × String) :
    (entryLine space e).toList =
      ' ' :: ' ' :: ' ' :: ' ' :: (literalChars e.1.toList ++
        (':' :: ' ' :: ((memberText space e.2).toList ++ [',']))) := by
  simp [entryLine, memberText, toString]

theorem take_length_sub (l r : List Char) : (l ++ r).take ((l ++ r).length - r.length) = l := by
  simp

theorem readMember?_entryLine (space : String) (e : String × String) :
    readMember? (entryLine space e).toList = some (literal e.1, memberText space e.2) := by
  rw [toList_entryLine, literalChars_append]
  have hk := take_length_sub (e.1.toList.flatMap escape ++ ['"'])
    (':' :: ' ' :: ((memberText space e.2).toList ++ [',']))
  rw [List.append_assoc, List.singleton_append] at hk
  simp only [readMember?, stringRest_flatMap_escape, hk]
  simp [literal, literalChars]

theorem lineFeed_not_mem_entryLine {space : String} {e : String × String}
    (hs : '\n' ∉ space.toList) (he : '\n' ∉ e.2.toList) : '\n' ∉ (entryLine space e).toList := by
  simp [toList_entryLine, memberText, lineFeed_not_mem_literalChars, hs, he]

theorem registryText_eq (registry : Registry) (name space : String) :
    registryText registry name space = registryOpening name ++ "\n".intercalate
      (if registry.entries.isEmpty then ["\x7d;"]
        else "" :: registry.entries.map (entryLine space) ++ ["\x7d;"]) := by
  unfold registryText registryLines registryOpening
  split_ifs
  · rw [← String.intercalate_cons_append, @String.append_assoc _ _ "\x7d;"]
    rfl
  · rw [List.cons_append, List.cons_append, ← String.intercalate_cons_append, String.append_empty]

theorem innerLines_registryText {registry : Registry} {name space : String}
    (hs : '\n' ∉ space.toList) (hr : ∀ e ∈ registry.entries, '\n' ∉ e.2.toList) :
    innerLines name (registryText registry name space) =
      registry.entries.map fun e => (entryLine space e).toList := by
  rw [innerLines, registryText_eq, String.toList_append, ← String.length_toList, List.drop_left,
    String.toList_intercalate]
  split_ifs with h
  · rw [List.isEmpty_iff.mp h]
    rfl
  · have hl : ∀ l ∈ ("" :: registry.entries.map (entryLine space) ++ ["\x7d;"]).map String.toList,
        '\n' ∉ l := by
      simp only [List.mem_map, List.mem_append, List.mem_cons, List.not_mem_nil, or_false]
      rintro _ ⟨l, (rfl | ⟨e, he, rfl⟩) | rfl, rfl⟩
      · decide
      · exact lineFeed_not_mem_entryLine hs (hr e he)
      · decide
    rw [show "\n".toList = ['\n'] from rfl, List.splitOn_intercalate '\n' hl (by simp)]
    simp

theorem readMembers_registryText {registry : Registry} {name space : String}
    (hs : '\n' ∉ space.toList) (hr : ∀ e ∈ registry.entries, '\n' ∉ e.2.toList) :
    readMembers name (registryText registry name space) =
      registry.entries.map fun e => (literal e.1, memberText space e.2) := by
  rw [readMembers, innerLines_registryText hs hr, List.filterMap_map]
  simp [readMember?_entryLine]

theorem registryLines_ne_nil (registry : Registry) (name space : String) :
    registryLines registry name space ≠ [] := by
  unfold registryLines
  split_ifs <;> simp

theorem content_eq_registryText (settings : EmitterSettings) (registry : Registry)
    (h : settings.mode = .standalone) :
    ∃ before after, (GeneratedModule.mk settings registry).content = before ++
      registryText registry settings.registryIdentifier settings.definitionsNamespace ++ after := by
  let m : GeneratedModule := ⟨settings, registry⟩
  let before := settings.header.toList ++
    [s!"import * as {settings.definitionsNamespace} from '{settings.definitionsModule}';",
      typedDocumentImport settings, ""]
  let after := [""] ++ m.declarations ++ lookupLines settings ++ [""] ++ documentTypeLines
  have hl : m.lines = before ++
      (registryLines registry settings.registryIdentifier settings.definitionsNamespace ++
        after) := by
    simp [GeneratedModule.lines, GeneratedModule.standaloneLines, m, h, before, after]
  refine ⟨"\n".intercalate before ++ "\n", "\n" ++ "\n".intercalate after ++ "\n", ?_⟩
  rw [GeneratedModule.content, GeneratedModule.body, hl,
    String.intercalate_append_of_ne_nil (by simp [before])
      (List.append_ne_nil_of_left_ne_nil (registryLines_ne_nil _ _ _) _),
    String.intercalate_append_of_ne_nil (registryLines_ne_nil _ _ _) (by simp [after])]
  simp [registryText, String.append_assoc]

end TypedTag
