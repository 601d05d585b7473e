import TypedTag.Proofs.GeneratedModule.Scope
import TypedTag.Proofs.Registry.Occurrences
import TypedTag.Proofs.Script.Object

/-! # Calling the tag function

The registry literal and the body of the tag function are evaluated as they are written. A
registered text leads to its member of the namespace. Any other text leads to what the literal
inherits, and to a new object only if it inherits nothing under that name.
-/

namespace TypedTag

open Text Script
open Json (stringRest)

def entryOf? (line : String) : Option (String × String × String) := do
  let rest ← behind? "    \"" line.toList
  let (text, rest) ← (stringRest true .none rest).toOption
  let rest ← behind? ": " rest
  let (space, rest) := word rest
  let rest ← behind? "." rest
  if rest.getLast? = some ',' then
    some (String.ofList text, space, String.ofList rest.dropLast)
  else none

def entryValue? (members : String → Value) (lines : List String) :
    String × String × String → Option (String × Value)
  | (text, space, member) =>
    if introducedAs lines space = [.definitions] then some (text, members member) else none

def valueOf? (lines : List String) (parameter : String) (argument registry : Value)
    (name : String) : Option Value :=
  match meanings lines parameter name with
  | [.parameter] => some argument
  | [.registry] => some registry
  | _ => none

def read? (heap : Heap) : Value → Value → Option Value
  | .object id, .primitive key => some (heap.read id key)
  | _, _ => none

/-- The result of a call of the tag function of a module with the given lines, and the objects there
are then. Nothing is known of a module whose names are not read as they should be. -/
def call? (realm : Realm) (members : String → Value) (lines : List String) (argument : String) :
    Option (Value × Heap) := do
  let entries ← (lines.filterMap entryOf?).mapM (entryValue? members lines)
  let heap : Heap := objectLiteral entries :: realm.heap
  let registry := Value.object realm.heap.length
  let (parameter, _) ← (lines.filterMap signature?).getLast?
  let (object, key) ← (lines.filterMap returned?).getLast?
  let object ← valueOf? lines parameter (.primitive argument) registry object
  let key ← valueOf? lines parameter (.primitive argument) registry key
  let value ← read? heap object key
  return heap.orObject value

def Registry.values (r : Registry) (members : String → Value) : List (String × Value) :=
  r.entries.map fun e => (e.1, members e.2)

/-- What a call should give: the value of a registered text, or else a new object without any
properties. -/
def Registry.dispatch (r : Registry) (members : String → Value) (heap : Heap) (s : String) :
    Value × Heap :=
  match r.definition? s with
  | some d => (members d, heap)
  | none => (.object heap.length, {} :: heap)

def Registry.parent (r : Registry) (members : String → Value) : Option Nat :=
  (objectLiteral (r.values members)).parent

theorem entryOf?_entryLine {space : String} (hs : isWord space) (e : String × String) :
    entryOf? (entryLine space e) = some (e.1, space, e.2) := by
  have hl : (entryLine space e).toList = "    \"".toList ++ (e.1.toList.flatMap escape ++
      '"' :: (": ".toList ++ (space.toList ++ '.' :: (e.2.toList ++ [','])))) := by
    rw [toList_entryLine, literalChars_append]
    simp [memberText]
  have hw : word (space.toList ++ '.' :: (e.2.toList ++ [','])) =
      (space, ".".toList ++ (e.2.toList ++ [','])) := word_append hs (by decide)
  rw [entryOf?, hl]
  simp only [behind?_append, stringRest_flatMap_escape, Except.toOption, Option.bind_eq_bind,
    Option.bind_some, hw]
  simp

namespace Registry

variable {r : Registry} {members : String → Value} {heap : Heap} {s d : String}

theorem nodup_values (r : Registry) (members : String → Value) :
    ((r.values members).map (·.1)).Nodup := by
  rw [values, List.map_map]
  exact r.nodup

theorem lookup_values (r : Registry) (members : String → Value) (s : String) :
    (r.values members).lookup s = (r.definition? s).map members :=
  lookup_map_snd members r.entries s

theorem parent_of_not_registered (h : r.definition? "__proto__" = none) :
    r.parent members = some 0 := by
  rw [parent, parent_objectLiteral (r.nodup_values members), lookup_values, h]
  rfl

theorem read_registered (hs : s ≠ "__proto__") (h : r.definition? s = some d) :
    Heap.read (objectLiteral (r.values members) :: heap) heap.length s = members d :=
  read_objectLiteral (r.nodup_values members) hs (by rw [lookup_values, h]; rfl)

theorem read_not_registered (h : s = "__proto__" ∨ r.definition? s = none) :
    Heap.read (objectLiteral (r.values members) :: heap) heap.length s =
      heap.inherited (r.parent members) s :=
  read_objectLiteral_inherited (r.nodup_values members)
    (h.imp_right fun h => by rw [lookup_values, h]; rfl)

theorem orObject_read_eq_dispatch_iff
    (hv : ∀ s d, r.definition? s = some d → ¬ (members d).isNullish) (heap : Heap) (s : String) :
    let new : Heap := objectLiteral (r.values members) :: heap
    new.orObject (new.read heap.length s) = r.dispatch members new s ↔
      match r.definition? s with
      | some d => s = "__proto__" → heap.inherited (r.parent members) s = members d
      | none => (heap.inherited (r.parent members) s).isNullish := by
  intro new
  unfold dispatch
  cases hd : r.definition? s with
  | none =>
    rw [read_not_registered (.inr hd)]
    exact Heap.orObject_eq_new_iff
  | some d =>
    by_cases hs : s = "__proto__"
    · rw [read_not_registered (.inl hs)]
      simp only [hs, forall_const]
      exact Heap.orObject_eq_iff (hv s d hd)
    · rw [read_registered hs hd]
      simp only [hs, false_implies, iff_true]
      exact (Heap.orObject_eq_iff (hv s d hd)).mpr rfl

end Registry

namespace GeneratedModule

variable {m : GeneratedModule}

theorem filterMap_entryOf?_registryLines (r : Registry) (name : String) {space : String}
    (hs : isWord space) :
    (registryLines r name space).filterMap entryOf? = r.entries.map fun e => (e.1, space, e.2) := by
  have he : entryOf? ∘ entryLine space = fun e => some (e.1, space, e.2) :=
    funext (entryOf?_entryLine hs)
  have hc : entryOf? "\x7d;" = none := by decide
  unfold registryLines
  split_ifs with hn
  · rw [List.isEmpty_iff.mp hn]
    simp [entryOf?, toString, behind?, List.isPrefixOf?]
  · have ho : entryOf? s!"export const {name} = \x7b" = none := by
      simp [entryOf?, toString, behind?, List.isPrefixOf?]
    rw [List.cons_append, List.filterMap_cons, ho, List.filterMap_append, List.filterMap_map, he]
    simp [hc]

theorem filterMap_entryOf?_standaloneLines (m : GeneratedModule) :
    m.standaloneLines.filterMap entryOf? =
      m.registry.entries.map fun e => (e.1, m.settings.definitionsNamespace, e.2) := by
  have hd : m.declarations.filterMap entryOf? = [] := by
    rw [List.filterMap_eq_nil_iff, declarations, List.forall_mem_map]
    intro o _
    simp [entryOf?, Overload.toList_declaration, behind?, List.isPrefixOf?]
  have hl : (lookupLines m.settings).filterMap entryOf? = [] := by
    simp [lookupLines_eq, entryOf?, toList_lookupOpening, toList_lookupBody, behind?,
      List.isPrefixOf?]
  rw [filterMap_standaloneLines m (by decide) (by decide), hd, hl,
    filterMap_entryOf?_registryLines _ _ (isWord_definitionsNamespace m.settings)]
  simp [entryOf?, toList_definitionsImport, toList_typedDocumentImport, behind?, List.isPrefixOf?]

section Calls

variable (h : m.settings.Named)
include h

theorem mapM_entryValue?_standaloneLines (members : String → Value) :
    (m.standaloneLines.filterMap entryOf?).mapM (entryValue? members m.standaloneLines) =
      some (m.registry.values members) := by
  have hp : (entryValue? members m.standaloneLines ∘ fun e : String × String =>
      (e.1, m.settings.definitionsNamespace, e.2)) = fun e => pure (e.1, members e.2) := by
    funext e
    simp only [Function.comp_apply, entryValue?, introducedAs_definitionsNamespace h, if_true]
    rfl
  rw [filterMap_entryOf?_standaloneLines, List.mapM_map, hp, List.mapM_pure]
  rfl

theorem call?_standaloneLines (hm : m.settings.mode = .standalone)
    (hp : m.settings.registryIdentifier ≠ "source")
    (hd : m.settings.registryIdentifier ≠ "DocumentNode") (realm : Realm)
    (members : String → Value) (s : String) :
    let heap : Heap := objectLiteral (m.registry.values members) :: realm.heap
    call? realm members m.standaloneLines s =
      some (heap.orObject (heap.read realm.heap.length s)) := by
  intro heap
  have hr := (meanings_registryIdentifier_iff h).mpr ⟨hp, hd⟩
  have hs : meanings m.standaloneLines "source" "source" = [.parameter] := rfl
  simp [call?, mapM_entryValue?_standaloneLines h, filterMap_signature?_standaloneLines h hm,
    filterMap_returned?_standaloneLines h, valueOf?, hr, hs, read?, heap]

end Calls

/-- A call with a text gives what it should, except in two cases: the text is not registered, but
the registry inherits something under that name, or it is a registered `__proto__`, and the registry
does not inherit its value. If no `__proto__` is registered, only the texts fail that are not
registered and are names of what all objects have. The name of the registry must be its own in the
module, and the definitions must have values. -/
theorem call_gives_dispatch_iff (settings : EmitterSettings) (sources : List Source)
    (h : settings.Named) (hp : settings.registryIdentifier ≠ "source")
    (hd : settings.registryIdentifier ≠ "DocumentNode") (realm : Realm) (members : String → Value)
    (hv : ∀ s ∈ sources, ¬ (members s.definition).isNullish) :
    let m := ofSources { settings with augmentedModule := none } sources
    let r := Registry.ofSources settings.policy sources
    let heap : Heap := objectLiteral (r.values members) :: realm.heap
    ∃ lines, m.lines = settings.header.toList ++ lines ∧
      ∀ s, ∃ result, call? realm members lines s = some result ∧ ¬ result.1.isNullish ∧
        (result = r.dispatch members heap s ↔
          match r.definition? s with
          | some d => s = "__proto__" → realm.heap.inherited (r.parent members) s = members d
          | none => (realm.heap.inherited (r.parent members) s).isNullish) ∧
        (r.definition? "__proto__" = none → (result = r.dispatch members heap s ↔
          (r.definition? s).isSome ∨ realm.common.lookup s = none)) := by
  intro m r heap
  have hm : m.settings.Named := ⟨h.registryName, h.tagFunction⟩
  have hv : ∀ s d, r.definition? s = some d → ¬ (members d).isNullish := fun s d hs =>
    hv _ (Registry.mem_sources_of_definition? hs)
  refine ⟨m.standaloneLines, lines_eq_standaloneLines rfl, fun s => ?_⟩
  have hi : heap.orObject (heap.read realm.heap.length s) = r.dispatch members heap s ↔ _ :=
    r.orObject_read_eq_dispatch_iff hv realm.heap s
  have hc : call? realm members m.standaloneLines s =
      some (heap.orObject (heap.read realm.heap.length s)) :=
    call?_standaloneLines hm rfl hp hd realm members s
  refine ⟨_, hc, Heap.not_isNullish_orObject, hi, ?_⟩
  intro hn
  rw [hi, Registry.parent_of_not_registered hn]
  cases hs : r.definition? s with
  | none => simp [realm.isNullish_inherited_iff]
  | some d =>
    have hp : s ≠ "__proto__" := by
      rintro rfl
      simp [hn] at hs
    simp [hp]

def smallRealm : Realm where
  objects := [{}, {}]
  common := [("constructor", .data (.object 1)), ("toString", .data (.object 2)),
    ("__proto__", .prototype)]
  defined := by decide

theorem call_of_registered_constructor :
    let settings : EmitterSettings := { registryName := "gql" }
    let m := ofSources settings [⟨"{ a }", "A"⟩, ⟨"constructor", "B"⟩]
    let heap : Heap := objectLiteral (m.registry.values .primitive) :: smallRealm.heap
    call? smallRealm .primitive m.lines "constructor" = some (.primitive "B", heap) ∧
      call? smallRealm .primitive m.lines "{ b }" = some (.object heap.length, {} :: heap) := by
  intro settings m heap
  have hr : settings.registryIdentifier ≠ "source" ∧
      settings.registryIdentifier ≠ "DocumentNode" := by
    constructor <;> rw [Ne, settings.registryIdentifier_eq_iff (by decide)] <;> decide
  obtain ⟨lines, hl, hc⟩ := call_gives_dispatch_iff settings
    [⟨"{ a }", "A"⟩, ⟨"constructor", "B"⟩] ⟨by decide, by decide⟩ hr.1 hr.2 smallRealm .primitive
    (by decide)
  have hl : m.lines = lines := hl
  obtain ⟨x, hx, -, -, hxd⟩ := hc "constructor"
  obtain ⟨y, hy, -, -, hyd⟩ := hc "{ b }"
  have hx' : x = (.primitive "B", heap) := (hxd (by decide)).mpr (by decide)
  have hy' : y = (.object heap.length, {} :: heap) := (hyd (by decide)).mpr (by decide)
  rw [hl, hx, hy, hx', hy']
  exact ⟨rfl, rfl⟩

theorem call_of_inherited_name :
    let m := ofSources {} [⟨"{ a }", "A"⟩]
    let heap : Heap := objectLiteral (m.registry.values .primitive) :: smallRealm.heap
    ∀ s ∈ ["constructor", "toString", "__proto__"], m.registry.definition? s = none ∧
      ∃ id < smallRealm.heap.length,
        call? smallRealm .primitive m.lines s = some (.object id, heap) := by
  intro m heap s hs
  have hr : m.settings.registryIdentifier ≠ "source" ∧
      m.settings.registryIdentifier ≠ "DocumentNode" := by
    constructor <;> rw [Ne, m.settings.registryIdentifier_eq_iff (by decide)] <;> decide
  have hd : ∀ s ∈ ["constructor", "toString", "__proto__"], m.registry.definition? s = none := by
    decide
  have hc : call? smallRealm .primitive m.lines s = some (heap.orObject (heap.read 3 s)) :=
    call?_standaloneLines ⟨by decide, by decide⟩ rfl hr.1 hr.2 smallRealm .primitive s
  have hv : ∀ s ∈ ["constructor", "toString", "__proto__"],
      ∃ id < smallRealm.heap.length, heap.read 3 s = .object id := by
    decide
  obtain ⟨id, hl, hv⟩ := hv s hs
  refine ⟨hd s hs, id, hl, ?_⟩
  rw [hc, hv]
  rfl

end GeneratedModule

end TypedTag
