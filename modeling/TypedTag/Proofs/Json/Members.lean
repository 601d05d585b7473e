import TypedTag.Proofs.Json.Record

/-! # Members of objects read back

The members of an object are read by a loop of their own. Each is a key, a colon and a value, so the
members are read back if their values are. A record is put together by its own members among others.
-/

namespace TypedTag.Json.Reader

open Text

variable {α : Type} {member : Reader α} {v : Value} {a : α} {key : String}
  {done as : List (String × α)} {ms : List (String × Value)} {blanks rest : List Char}

/-- A step of reading members. Those that were read are kept in reverse. -/
def pairStep (member : Reader α) (done : List (String × α)) :
    Reader (List (String × α) ⊕ List (String × α)) := do
  match ← anotherKey? done.isEmpty with
  | some key =>
    colon
    return .inl ((key, ← member) :: done)
  | none =>
    advance
    return .inr done.reverse

theorem members_brace (member : Reader α) (rest : List Char) :
    members member ('\x7b' :: rest) = loop (pairStep member) [] rest := rfl

theorem pairStep_member (h : ReadsBack member v a) (layout : Layout) (hb : Blank blanks) :
    pairStep member done (separator done.isEmpty ++ blanks ++
        (literalChars key.toList ++ (layout.colon ++ (v.print layout ++ rest)))) =
      .ok (.inl ((key, a) :: done), rest) := by
  obtain ⟨space, hc, hl⟩ := exists_colon_eq layout
  have hp : colon (layout.colon ++ (v.print layout ++ rest)) =
      .ok ((), space ++ (v.print layout ++ rest)) := by
    rw [hl]
    exact colon_blanks blank_nil
  rw [pairStep, bind_of_ok (anotherKey?_separator _ hb key)]
  simp only
  rw [bind_of_ok hp, bind_of_ok ((h layout).reads rest hc)]
  rfl

theorem pairStep_brace (hb : Blank blanks) :
    pairStep member done (blanks ++ '\x7d' :: rest) = .ok (.inr done.reverse, rest) := by
  rw [pairStep, bind_of_ok (anotherKey?_brace _ hb)]
  rfl

theorem loops_pair (h : ReadsBack member v a) (layout : Layout) (hb : Blank blanks)
    {cs : List Char} (hl : Loops (pairStep member) ((key, a) :: done) cs as rest) :
    Loops (pairStep member) done (separator done.isEmpty ++ blanks ++
      (literalChars key.toList ++ (layout.colon ++ (v.print layout ++ cs)))) as rest := by
  refine .more (pairStep_member h layout hb) ?_ hl
  have hlt := (h layout).length_lt [] cs
  simp only [List.nil_append, List.length_append] at hlt ⊢
  omega

def MembersReadBack (member : Reader α) : List (String × Value) → List (String × α) → Prop :=
  List.Forall₂ fun m a => m.1 = a.1 ∧ ReadsBack member m.2 a.2

theorem loops_printMembers (h : MembersReadBack member ms as) (hd : done ≠ []) (layout : Layout)
    (rest : List Char) (hb : Blank blanks) :
    Loops (pairStep member) done (printMembers layout ms ++ (blanks ++ '\x7d' :: rest))
      (done.reverse ++ as) rest := by
  induction h generalizing done with
  | nil =>
    rw [printMembers, List.append_nil]
    exact .stop (pairStep_brace hb)
  | @cons m a ms as hm _ ih =>
    obtain ⟨key, v⟩ := m
    obtain ⟨key', a⟩ := a
    obtain ⟨rfl, hv⟩ : key = key' ∧ ReadsBack member v a := hm
    have hl := loops_pair hv layout (blank_lineBreak layout) (ih (List.cons_ne_nil (key, a) done))
    rw [List.isEmpty_eq_false_iff.mpr hd] at hl
    simpa [separator, printMembers] using hl

theorem members_print (h : MembersReadBack member ms as) (layout : Layout) (rest : List Char) :
    members member ((Value.object ms).print layout ++ rest) = .ok (as, rest) := by
  cases h with
  | nil =>
    have hl : Loops (pairStep member) [] ('\x7d' :: rest) [] rest :=
      .stop (pairStep_brace blank_nil)
    exact (members_brace member _).trans hl.loop
  | @cons m a ms as hm hms =>
    obtain ⟨key, v⟩ := m
    obtain ⟨key', a⟩ := a
    obtain ⟨rfl, hv⟩ : key = key' ∧ ReadsBack member v a := hm
    -- The first member has no comma before it, the others have one each.
    have hl := loops_pair hv layout.inner (blank_lineBreak layout.inner)
      (loops_printMembers hms (List.cons_ne_nil (key, a) []) layout.inner rest
        (blank_lineBreak layout))
    simpa [separator, Value.print, Layout.colon_inner] using
      (members_brace member _).trans hl.loop

section Scalars

variable (depth : Nat)

theorem value_scalar {c : Char} (hb : Blank blanks) (hc : ¬ isSpace c) (hl : c ≠ '[')
    (ho : c ≠ '\x7b') : value depth (blanks ++ c :: rest) = scalar c (c :: rest) := by
  rw [value.eq_def, bind_of_ok (peek_blanks hb hc)]
  split <;> simp_all

theorem readsBack_value_null : ReadsBack (value depth) .null .null :=
  fun _ => ⟨⟨'n', _, rfl, by decide, by decide⟩, fun _ hb =>
    value_scalar depth hb (by decide) (by decide) (by decide)⟩

theorem readsBack_value_boolean (b : Bool) : ReadsBack (value depth) (.boolean b) (.boolean b) := by
  intro layout
  cases b with
  | true =>
    exact ⟨⟨'t', _, rfl, by decide, by decide⟩, fun _ hb =>
      value_scalar depth hb (by decide) (by decide) (by decide)⟩
  | false =>
    exact ⟨⟨'f', _, rfl, by decide, by decide⟩, fun _ hb =>
      value_scalar depth hb (by decide) (by decide) (by decide)⟩

theorem readsBack_value_string (s : String) : ReadsBack (value depth) (.string s) (.string s) := by
  refine fun layout => ⟨⟨'"', _, rfl, by decide, by decide⟩, fun {blanks} rest hb => ?_⟩
  have hs : (Value.string <$> string) (literalChars s.toList ++ rest) = .ok (.string s, rest) :=
    map_of_ok Value.string (string_literalChars s)
  rw [literalChars_append] at hs
  rw [Value.print, literalChars_append,
    value_scalar depth hb (by decide) (by decide) (by decide)]
  exact hs

end Scalars

end TypedTag.Json.Reader

namespace TypedTag.Json

open Reader

variable {σ : Type}

/-- A field is written as a string, a truth value or null, and each of these is read as it is. -/
theorem Slot.readsBack_value (slot : Slot σ) (s : σ) (depth : Nat) :
    ReadsBack (value depth) (slot.encode s) (slot.encode s) := by
  cases slot with
  | text get _ => exact readsBack_value_string depth (get s)
  | optionalText get _ =>
    rw [Slot.encode]
    cases get s with
    | none => exact readsBack_value_null depth
    | some t => exact readsBack_value_string depth t
  | flag get _ => exact readsBack_value_boolean depth (get s)
  | choice get _ => exact readsBack_value_string depth (get s)

namespace Record

variable {r : Record σ} {s : σ} {ms : List (String × Value)}

def takes (r : Record σ) (key : String) : Bool :=
  (r.field? key).isSome

theorem overlay_filter_takes (r : Record σ) (seen : List String) (s : σ)
    (ms : List (String × Value)) :
    r.overlay seen s (ms.filter fun m => r.takes m.1) = r.overlay seen s ms := by
  induction ms generalizing seen s with
  | nil => rfl
  | cons m ms ih =>
    obtain ⟨key, v⟩ := m
    cases hf : r.field? key with
    | none =>
      rw [List.filter_cons_of_neg (by simp [takes, hf]), ih, overlay, hf]
    | some f =>
      rw [List.filter_cons_of_pos (by simp [takes, hf]), overlay, overlay, hf]
      simp only [ih]

theorem Lawful.overlay_of_filter (h : r.Lawful)
    (hm : (ms.filter fun m => r.takes m.1) = membersOf s r.fields) :
    r.overlay [] r.start ms = .ok s := by
  rw [← overlay_filter_takes, hm, h.overlay]

theorem readsBack_of_mem_membersOf {fs : List (Field σ)} {m : String × Value} (depth : Nat)
    (h : m ∈ membersOf s fs) : ReadsBack (value depth) m.2 m.2 := by
  obtain ⟨f, _, rfl⟩ := List.mem_map.mp h
  exact f.slot.readsBack_value s depth

end Record

end TypedTag.Json
