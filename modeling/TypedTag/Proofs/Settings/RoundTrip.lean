import TypedTag.Proofs.Json.Members
import TypedTag.Settings.Json

/-! # Settings read back

The settings of the emitter and those of the namer are written as the members of one object. Each of
the two passes by the members of the other and is put together by its own, so the object is read
back as the settings it was written from.
-/

namespace TypedTag

open Json Naming

theorem EmitterSettings.lawful_record : record.Lawful where
  field? := by simp [record, Record.field?]
  overlay := by
    rintro ⟨module?, definitions, policy, header?, registry, function, typed⟩
    cases module? <;> cases policy <;> cases header? <;> rfl

theorem Naming.Namer.lawful_record : record.Lawful where
  field? := by simp [record, Record.field?]
  overlay := by
    rintro ⟨convention, dropUnderscores⟩
    cases convention <;> rfl

namespace Settings

open Reader

def members (s : Settings) : List (String × Value) :=
  Record.membersOf s.emitter EmitterSettings.record.fields ++
    Record.membersOf s.namer Namer.record.fields

/-- The keys of settings. They are the same for all settings. -/
def keys : List String :=
  EmitterSettings.record.fields.map (·.name) ++ Namer.record.fields.map (·.name)

theorem nodup_keys : keys.Nodup := by decide

/-- No key belongs to both the emitter and the namer, and none belongs to neither. -/
theorem takes_keys :
    ∀ key ∈ keys, EmitterSettings.record.takes key = !Namer.record.takes key := by
  decide

theorem ofMembers_members (s : Settings) : ofMembers s.members = .ok s := by
  have he : EmitterSettings.record.overlay [] {} s.members = .ok s.emitter :=
    EmitterSettings.lawful_record.overlay_of_filter rfl
  have hn : Namer.record.overlay [] {} s.members = .ok s.namer :=
    Namer.lawful_record.overlay_of_filter rfl
  rw [ofMembers, he, hn]
  rfl

theorem membersReadBack (s : Settings) (depth : Nat) :
    MembersReadBack (value depth) s.members s.members := by
  refine List.forall₂_same.mpr fun m hm => ⟨rfl, ?_⟩
  rcases List.mem_append.mp hm with hm | hm
  · exact Record.readsBack_of_mem_membersOf depth hm
  · exact Record.readsBack_of_mem_membersOf depth hm

theorem reader_brace {blanks : List Char} (rest : List Char) (hb : Blank blanks) :
    reader (blanks ++ '\x7b' :: rest) = (do
      let ms ← Reader.members (value (maxDepth - 1))
      ofMembers ms : Reader Settings) ('\x7b' :: rest) := by
  rw [reader, bind_of_ok (peek_blanks hb (by decide))]
  rfl

theorem readsBack_reader (s : Settings) : ReadsBack reader s.toJson s := by
  intro layout
  obtain ⟨cs, hp⟩ : ∃ cs, s.toJson.print layout = '\x7b' :: cs := ⟨_, rfl⟩
  refine ⟨⟨'\x7b', cs, hp, by decide, by decide⟩, fun rest hb => ?_⟩
  have hm : Reader.members (value (maxDepth - 1)) (s.toJson.print layout ++ rest) =
      .ok (s.members, rest) := members_print (s.membersReadBack _) layout rest
  rw [hp, List.cons_append] at hm ⊢
  rw [reader_brace _ hb, bind_of_ok hm, ofMembers_members]
  rfl

end Settings

/-- Whatever was written, on one line or on several, is read back: settings as a whole, those of the
emitter and those of the namer alone, and lists of sources. The settings as a whole are one object
in which no key is repeated and each is one of the emitter or one of the namer, but not of both. -/
theorem Settings.read_written (layout : Layout) :
    let written := fun v : Value => String.ofList (v.print layout)
    (∀ s : Settings, ofJson (written s.toJson) = .ok s) ∧
    (∀ s : EmitterSettings, EmitterSettings.record.read.run
      (written (EmitterSettings.record.encode s)) = .ok s) ∧
    (∀ namer : Namer, Namer.record.read.run (written (Namer.record.encode namer)) = .ok namer) ∧
    (∀ sources : List Source, (Reader.list Source.record.read).run
      (written (Source.listToJson sources)) = .ok sources) ∧
    ∀ s : Settings, ∃ ms, s.toJson = .object ms ∧ (ms.map (·.1)).Nodup ∧
      ∀ key ∈ ms.map (·.1),
        (EmitterSettings.record.field? key).isSome ↔ Namer.record.field? key = none := by
  intro written
  refine ⟨fun s => s.readsBack_reader.run_print layout,
    fun s => (EmitterSettings.lawful_record.readsBack s).run_print layout,
    fun namer => (Namer.lawful_record.readsBack namer).run_print layout,
    fun sources => (Source.readsBack_list sources).run_print layout,
    fun s => ⟨s.members, rfl, nodup_keys, fun key hk => ?_⟩⟩
  have ht := takes_keys key hk
  simp only [Record.takes] at ht
  rw [ht]
  simp

end TypedTag
