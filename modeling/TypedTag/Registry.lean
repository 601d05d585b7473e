import TypedTag.Source

/-! # The registry of document texts

A registry maps each document text to one definition, in the order in which the texts were first
seen. A text that comes with two different definitions is a conflict. The policy settles it, and the
conflict is kept on record.
-/

namespace TypedTag

inductive DuplicatePolicy
  | firstWins
  | lastWins
  deriving DecidableEq, Repr

structure Conflict where
  text : String
  kept : String
  discarded : String
  deriving DecidableEq, Repr

/-- Gives the definition of one text a new value. -/
def setDefinition (text definition : String) (entries : List (String × String)) :
    List (String × String) :=
  entries.map fun e => if e.1 = text then (e.1, definition) else e

theorem map_fst_setDefinition (text definition : String) (entries : List (String × String)) :
    (setDefinition text definition entries).map (·.1) = entries.map (·.1) := by
  simp only [setDefinition, List.map_map]
  refine List.map_congr_left fun e _ => ?_
  by_cases h : e.1 = text <;> simp [h]

theorem not_mem_keys_of_lookup_eq_none {text : String} {entries : List (String × String)}
    (h : entries.lookup text = none) : text ∉ entries.map (·.1) := by
  intro known
  obtain ⟨e, he, rfl⟩ := List.mem_map.mp known
  simpa using List.lookup_eq_none_iff.mp h e he

structure Registry where
  entries : List (String × String) := []
  conflicts : List Conflict := []
  nodup : (entries.map (·.1)).Nodup := by simp

namespace Registry

def definition? (r : Registry) (text : String) : Option String :=
  r.entries.lookup text

def size (r : Registry) : Nat :=
  r.entries.length

/-- Adds a source. One with a known text and its known definition changes nothing. -/
def add (policy : DuplicatePolicy) (r : Registry) (source : Source) : Registry :=
  match h : r.definition? source.text with
  | none =>
    { r with
      entries := r.entries ++ [(source.text, source.definition)]
      nodup := by
        rw [List.map_append, List.nodup_append]
        refine ⟨r.nodup, by simp, fun a ha b hb => ?_⟩
        obtain rfl : b = source.text := by simpa using hb
        rintro rfl
        exact not_mem_keys_of_lookup_eq_none h ha }
  | some known =>
    if known = source.definition then r
    else match policy with
      | .firstWins =>
        { r with conflicts := r.conflicts ++ [⟨source.text, known, source.definition⟩] }
      | .lastWins =>
        { entries := setDefinition source.text source.definition r.entries
          conflicts := r.conflicts ++ [⟨source.text, source.definition, known⟩]
          nodup := by rw [map_fst_setDefinition]; exact r.nodup }

def ofSources (policy : DuplicatePolicy) (sources : List Source) : Registry :=
  sources.foldl (add policy) {}

end Registry

def DuplicatePolicy.label : DuplicatePolicy → String
  | .firstWins => "FirstWins"
  | .lastWins => "LastWins"

/-- The warning about a conflict while the registry is built. -/
def Conflict.warning (policy : DuplicatePolicy) (c : Conflict) : String :=
  s!"Document source is registered for both `{c.kept}` and `{c.discarded}`; " ++
    s!"dispatching to `{c.kept}` ({policy.label})."

end TypedTag
