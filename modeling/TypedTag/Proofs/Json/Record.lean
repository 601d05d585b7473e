import TypedTag.Proofs.Json.Reader
import TypedTag.Source

/-! # Records read back

A field is read from its printed value as it is put into a record from the value. So a record is
read back from what it is printed as, if its members put it together and no two of its fields have
the same name.
-/

namespace TypedTag.Json

open Reader Text

variable {α σ : Type}

namespace Reader

theorem readsBack_text (t : String) : ReadsBack text (.string t) t := by
  intro layout
  refine ⟨⟨'"', _, rfl, by decide, by decide⟩, fun {blanks} rest hb => ?_⟩
  rw [Value.print, literalChars_append, text, bind_of_ok (peek_blanks hb (by decide))]
  change string _ = _
  rw [← literalChars_append]
  exact string_literalChars t

theorem readsBack_optionalText (t : Option String) :
    ReadsBack optionalText (t.elim .null .string) t := by
  intro layout
  cases t with
  | none =>
    refine ⟨⟨'n', _, rfl, by decide, by decide⟩, fun {blanks} rest hb => ?_⟩
    change optionalText (blanks ++ 'n' :: 'u' :: 'l' :: 'l' :: rest) = _
    rw [optionalText, bind_of_ok (peek_blanks hb (by decide))]
    rfl
  | some t =>
    refine ⟨(readsBack_text t layout).starts, fun {blanks} rest hb => ?_⟩
    have ht := (readsBack_text t layout).reads rest blank_nil
    change optionalText (blanks ++ (literalChars t.toList ++ rest)) = _
    change Reader.text (literalChars t.toList ++ rest) = _ at ht
    rw [literalChars_append] at ht ⊢
    rw [optionalText, bind_of_ok (peek_blanks hb (by decide))]
    exact map_of_ok some ht

theorem readsBack_flag (b : Bool) : ReadsBack flag (.boolean b) b := by
  intro layout
  cases b with
  | true =>
    refine ⟨⟨'t', _, rfl, by decide, by decide⟩, fun {blanks} rest hb => ?_⟩
    change flag (blanks ++ 't' :: 'r' :: 'u' :: 'e' :: rest) = _
    rw [flag, bind_of_ok (peek_blanks hb (by decide))]
    rfl
  | false =>
    refine ⟨⟨'f', _, rfl, by decide, by decide⟩, fun {blanks} rest hb => ?_⟩
    change flag (blanks ++ 'f' :: 'a' :: 'l' :: 's' :: 'e' :: rest) = _
    rw [flag, bind_of_ok (peek_blanks hb (by decide))]
    rfl

theorem readsBack_choice {variants : List (String × α)} {name : String} {a : α}
    (h : chosen variants name = .ok a) : ReadsBack (choice variants) (.string name) a := by
  intro layout
  refine ⟨⟨'"', _, rfl, by decide, by decide⟩, fun {blanks} rest hb => ?_⟩
  have hs : string (literalChars name.toList ++ rest) = .ok (name, rest) := string_literalChars name
  rw [literalChars_append] at hs
  rw [Value.print, literalChars_append, choice, bind_of_ok (peek_blanks hb (by decide))]
  refine (bind_of_ok hs).trans ?_
  rw [h]
  rfl

end Reader

/-- Reading a field from its printed value puts it into a record as its value does. -/
theorem Slot.readsBack_encode {slot : Slot σ} {t s s' : σ}
    (h : slot.put s (slot.encode t) = .ok s') : ReadsBack (slot.read s) (slot.encode t) s' := by
  cases slot with
  | text get set =>
    obtain rfl : set (get t) s = s' := Except.ok.inj h
    exact (readsBack_text (get t)).map (set · s)
  | optionalText get set =>
    have hs : set (get t) s = s' := by
      cases hg : get t <;> simp_all [Slot.encode, Slot.put]
    exact hs ▸ (readsBack_optionalText (get t)).map (set · s)
  | flag get set =>
    obtain rfl : set (get t) s = s' := Except.ok.inj h
    exact (readsBack_flag (get t)).map (set · s)
  | choice get variants =>
    change (chosen variants (get t)).map (· s) = _ at h
    cases hc : chosen variants (get t) with
    | error e => rw [hc] at h; cases h
    | ok f =>
      rw [hc] at h
      obtain rfl : f s = s' := Except.ok.inj h
      exact (readsBack_choice hc).map (· s)

namespace Record

def memberStep (r : Record σ) (state : Option (List String × σ)) :
    Reader (Option (List String × σ) ⊕ σ) := do
  let (seen, s) := state.getD ([], r.start)
  match ← anotherKey? state.isNone with
  | none =>
    advance
    match r.fields.find? (·.name ∉ seen) with
    | some f => if r.required then throw (.missingField f.name)
    | none => pure ()
    return .inr s
  | some key =>
    match r.field? key with
    | none =>
      colon
      skip
      return .inl (some (seen, s))
    | some f =>
      if key ∈ seen then throw (.duplicateField key)
      colon
      return .inl (some (key :: seen, ← f.slot.read s))

variable {r : Record σ} {f : Field σ} {fs : List (Field σ)} {state : Option (List String × σ)}
  {seen : List String} {s s' t : σ} {v : Value} {ms : List (String × Value)}
  {blanks rest : List Char}

theorem memberStep_member (hs : state.getD ([], r.start) = (seen, s))
    (hf : r.field? f.name = some f) (hn : f.name ∉ seen) (hv : ReadsBack (f.slot.read s) v s')
    (layout : Layout) (hb : Blank blanks) :
    r.memberStep state (separator state.isNone ++ blanks ++
        (literalChars f.name.toList ++ (layout.colon ++ (v.print layout ++ rest)))) =
      .ok (.inl (some (f.name :: seen, s')), rest) := by
  rw [memberStep, hs]
  simp only
  rw [bind_of_ok (anotherKey?_separator _ hb f.name)]
  obtain ⟨space, hc, hl⟩ := exists_colon_eq layout
  have hp : colon (layout.colon ++ (v.print layout ++ rest)) =
      .ok ((), space ++ (v.print layout ++ rest)) := by
    rw [hl]
    exact colon_blanks blank_nil
  simp only [hf, hn, if_false]
  rw [bind_of_ok hp, bind_of_ok ((hv layout).reads rest hc)]
  rfl

theorem loops_member (hs : state.getD ([], r.start) = (seen, s))
    (hf : r.field? f.name = some f) (hn : f.name ∉ seen) (hv : ReadsBack (f.slot.read s) v s')
    (layout : Layout) (hb : Blank blanks) {cs : List Char}
    (hl : Loops r.memberStep (some (f.name :: seen, s')) cs t rest) :
    Loops r.memberStep state (separator state.isNone ++ blanks ++
      (literalChars f.name.toList ++ (layout.colon ++ (v.print layout ++ cs)))) t rest := by
  refine .more (memberStep_member hs hf hn hv layout hb) ?_ hl
  have hlt := (hv layout).length_lt [] cs
  simp only [List.nil_append, List.length_append] at hlt ⊢
  omega

theorem memberStep_brace (hs : state.getD ([], r.start) = (seen, s))
    (hf : ∀ f ∈ r.fields, f.name ∈ seen) (hb : Blank blanks) :
    r.memberStep state (blanks ++ '\x7d' :: rest) = .ok (.inr s, rest) := by
  have hn : r.fields.find? (·.name ∉ seen) = none := by simpa using hf
  rw [memberStep, hs]
  simp only
  rw [bind_of_ok (anotherKey?_brace _ hb)]
  simp only [hn]
  rfl

def membersOf (t : σ) (fs : List (Field σ)) : List (String × Value) :=
  fs.map fun f => (f.name, f.slot.encode t)

theorem overlay_cons (hf : r.field? f.name = some f)
    (h : r.overlay seen s ((f.name, v) :: ms) = .ok s') :
    f.name ∉ seen ∧ ∃ s₁, f.slot.put s v = .ok s₁ ∧ r.overlay (f.name :: seen) s₁ ms = .ok s' := by
  rw [overlay, hf] at h
  simp only at h
  split at h
  case isTrue => cases h
  case isFalse hn =>
    cases hp : f.slot.put s v with
    | error e => rw [hp] at h; cases h
    | ok s₁ =>
      rw [hp] at h
      exact ⟨hn, s₁, rfl, h⟩

/-- Tells that every field is either among the seen names or still to come. -/
def Covered (r : Record σ) (seen : List String) (fs : List (Field σ)) : Prop :=
  ∀ f ∈ r.fields, f.name ∈ seen ∨ f ∈ fs

theorem Covered.advance (h : r.Covered seen (f :: fs)) : r.Covered (f.name :: seen) fs := by
  intro g hg
  rcases h g hg with h | h
  · exact .inl (List.mem_cons_of_mem _ h)
  · rcases List.mem_cons.mp h with rfl | h
    · exact .inl List.mem_cons_self
    · exact .inr h

theorem loops_members (hs : state.getD ([], r.start) = (seen, s))
    (hf : ∀ g ∈ f :: fs, r.field? g.name = some g) (hc : r.Covered seen (f :: fs))
    (h : r.overlay seen s (membersOf t (f :: fs)) = .ok s') (layout : Layout) (rest : List Char)
    (hb : Blank blanks) {closing : List Char} (hl : Blank closing) :
    Loops r.memberStep state (separator state.isNone ++ blanks ++ (literalChars f.name.toList ++
      (layout.colon ++ ((f.slot.encode t).print layout ++
        (printMembers layout (membersOf t fs) ++ (closing ++ '\x7d' :: rest)))))) s' rest := by
  induction fs generalizing f state seen s blanks with
  | nil =>
    obtain ⟨hn, s₁, hp, ho⟩ := overlay_cons (hf f List.mem_cons_self) h
    obtain rfl : s₁ = s' := Except.ok.inj ho
    -- No field is still to come, so none is missing at the brace.
    have hseen : ∀ g ∈ r.fields, g.name ∈ f.name :: seen := by simpa [Covered] using hc.advance
    exact loops_member hs (hf f List.mem_cons_self) hn (Slot.readsBack_encode hp) layout hb
      (.stop (memberStep_brace Option.getD_some hseen hl))
  | cons g fs ih =>
    rw [List.forall_mem_cons] at hf
    obtain ⟨hn, s₁, hp, ho⟩ := overlay_cons hf.1 h
    have hm := ih Option.getD_some hf.2 hc.advance ho (blank_lineBreak layout)
    refine loops_member hs hf.1 hn (Slot.readsBack_encode hp) layout hb ?_
    simpa [separator, printMembers, membersOf] using hm

/-- A type of records of which each is put together by its own members. -/
structure Lawful (r : Record σ) : Prop where
  field? : ∀ f ∈ r.fields, r.field? f.name = some f
  overlay : ∀ s, r.overlay [] r.start (membersOf s r.fields) = .ok s

theorem read_brace (hb : Blank blanks) :
    r.read (blanks ++ '\x7b' :: rest) = loop r.memberStep none rest := by
  rw [read, bind_of_ok (peek_blanks hb (by decide))]
  rfl

theorem Lawful.readsBack (h : r.Lawful) (s : σ) : ReadsBack r.read (r.encode s) s := by
  intro layout
  have ho := h.overlay s
  change Reads _ ((Value.object (membersOf s r.fields)).print layout) s
  cases hf : r.fields with
  | nil =>
    refine ⟨⟨'\x7b', _, rfl, by decide, by decide⟩, fun rest hb => ?_⟩
    rw [hf] at ho
    obtain rfl : r.start = s := Except.ok.inj ho
    have hl : Loops r.memberStep none ('\x7d' :: rest) r.start rest :=
      .stop (memberStep_brace rfl (by simp [hf]) blank_nil)
    exact (read_brace hb).trans hl.loop
  | cons f fs =>
    refine ⟨⟨'\x7b', _, rfl, by decide, by decide⟩, fun rest hb => ?_⟩
    have hc : r.Covered [] (f :: fs) := fun g hg => .inr (hf ▸ hg)
    have hl := loops_members Option.getD_none (hf ▸ h.field?) hc (hf ▸ ho) layout.inner rest
      (blank_lineBreak layout.inner) (blank_lineBreak layout)
    simpa [separator, Value.print, membersOf, Layout.colon_inner] using
      (read_brace hb).trans hl.loop

end Record

end TypedTag.Json

namespace TypedTag.Source

open Json

theorem lawful_record : record.Lawful where
  field? := by simp [record, Record.field?]
  overlay := fun _ => rfl

theorem readsBack_list (sources : List Source) :
    Reader.ReadsBack (Reader.list record.read) (listToJson sources) sources := by
  refine Reader.ReadsBack.list ?_
  rw [List.forall₂_map_left_iff, List.forall₂_same]
  exact fun s _ => lawful_record.readsBack s

theorem run_list_indented (sources : List Source) :
    (Reader.list record.read).run (listToJson sources).indented = .ok sources :=
  (readsBack_list sources).run

end TypedTag.Source
