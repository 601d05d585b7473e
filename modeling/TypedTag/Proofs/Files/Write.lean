import TypedTag.Files.Write
import TypedTag.Proofs.Files.Follow

/-! # What writing changes

Making directories adds directories where nothing was. Writing to a path changes what one file says,
be it new or not, or sends something to a device. A text of which only a front part was written is
gone from the file all the same.
-/

namespace TypedTag.Files

open Text

namespace Tree

/-- A later tree has everything that was there, and what is new there are directories. -/
structure Grows (t t' : Tree) : Prop where
  conditions : t'.toConditions = t.toConditions
  contents : t'.contents = t.contents
  sent : t'.sent = t.sent
  keeps {place node} : t.node? place = some node → t'.node? place = some node
  adds {place node} : t.node? place = none → t'.node? place = some node → node = .directory

/-- One file of a later tree, at a location and maybe at others, was written and says this. If
nothing was at the location, it is a new file. No other file says anything else, and what else is
new there are directories. -/
structure Wrote (t t' : Tree) (place : Location) (number : Nat) (octets : ByteArray) : Prop where
  conditions : t'.toConditions = t.toConditions
  written : t'.node? place = some (.file number)
  content : t'.contents number = octets
  isNew : t.node? place = none → ∀ other, t.node? other ≠ some (.file number)
  others {n} : n ≠ number → t'.contents n = t.contents n
  sent : t'.sent = t.sent
  keeps {other node} : t.node? other = some node → t'.node? other = some node
  adds {other node} : other ≠ place → t.node? other = none → t'.node? other = some node →
    node = .directory

/-- A device was sent something, and the files are as they were. -/
structure Sent (t t' : Tree) (place : Location) (octets : ByteArray) : Prop where
  device : t.node? place = some .device
  sent : t'.sent = t.sent ++ [(place, octets)]
  grows : t.Grows { t' with sent := t.sent }

inductive Reached (t t' : Tree) (place : Location) (octets : ByteArray) : Prop
  | file {number} : t.Wrote t' place number octets → Reached t t' place octets
  | device : t.Sent t' place octets → Reached t t' place octets

variable {t t' t'' : Tree} {place other : Location} {node : Node} {path : String} {number : Nat}
  {octets content : ByteArray}

@[simp] theorem node?_setContent : (t.setContent number octets).node? place = t.node? place := rfl

@[simp] theorem contents_setContent_self : (t.setContent number octets).contents number = octets :=
  if_pos rfl

theorem contents_setContent_of_ne {n : Nat} (h : n ≠ number) :
    (t.setContent number octets).contents n = t.contents n :=
  if_neg h

theorem lookup_filter_of_ne {nodes : List (Location × Node)} (h : other ≠ place) :
    (nodes.filter (·.1 ≠ place)).lookup other = nodes.lookup other := by
  induction nodes with
  | nil => rfl
  | cons entry nodes ih =>
    by_cases hp : entry.1 = place
    · have hne : (other == entry.1) = false := beq_eq_false_iff_ne.mpr (hp ▸ h)
      rw [List.filter_cons_of_neg (by simp [hp]), ih, List.lookup_cons, hne]
    · rw [List.filter_cons_of_pos (by simp [hp]), List.lookup_cons, List.lookup_cons, ih]

theorem lookup_filter_self (nodes : List (Location × Node)) :
    (nodes.filter (·.1 ≠ place)).lookup place = none := by
  rw [List.lookup_eq_none_iff]
  intro entry h
  have hp : entry.1 ≠ place := by simpa using (List.mem_filter.mp h).2
  exact bne_iff_ne.mpr hp.symm

theorem node?_put_of_ne (h : other ≠ place) : (t.put place node).node? other = t.node? other := by
  have hp : [(place, node)].lookup other = none := by
    rw [List.lookup_cons, beq_eq_false_iff_ne.mpr h, List.lookup_nil]
  unfold node? put
  rw [List.lookup_append, lookup_filter_of_ne h, hp, Option.or_none]

theorem node?_put_self (h : place ≠ []) : (t.put place node).node? place = some node := by
  unfold node? put
  rw [List.lookup_append, lookup_filter_self]
  simp [h]

theorem ne_nil_of_node?_ne (h : t.node? place ≠ some .directory) : place ≠ [] := by
  rintro rfl
  exact h rfl

theorem le_foldr_max {n : Nat} {ns : List Nat} (h : n ∈ ns) : n ≤ ns.foldr max 0 := by
  induction ns with
  | nil => cases h
  | cons m ns ih =>
    rw [List.foldr_cons]
    rcases List.mem_cons.mp h with rfl | h
    · exact Nat.le_max_left _ _
    · exact Nat.le_trans (ih h) (Nat.le_max_right _ _)

theorem node?_ne_file_freshNumber (t : Tree) (place : Location) :
    t.node? place ≠ some (.file t.freshNumber) := by
  intro h
  have hp : place ≠ [] := by
    rintro rfl
    cases h
  have hl : t.nodes.lookup place = some (.file t.freshNumber) := by simpa [node?, hp] using h
  obtain ⟨_, _, hm, -⟩ := List.lookup_eq_some_iff.mp hl
  have hm : t.freshNumber ∈ t.nodes.map (·.2.number) :=
    List.mem_map.mpr ⟨(place, .file t.freshNumber), by simp [hm], rfl⟩
  exact Nat.not_succ_le_self _ (le_foldr_max hm)

theorem Grows.refl (t : Tree) : t.Grows t where
  conditions := rfl
  contents := rfl
  sent := rfl
  keeps hn := hn
  adds hn hn' := by rw [hn] at hn'; cases hn'

theorem Grows.trans (h : t.Grows t') (h' : t'.Grows t'') : t.Grows t'' where
  conditions := h'.conditions.trans h.conditions
  contents := h'.contents.trans h.contents
  sent := h'.sent.trans h.sent
  keeps hn := h'.keeps (h.keeps hn)
  adds {place node} hn hn'' := by
    cases hm : t'.node? place with
    | none => exact h'.adds hm hn''
    | some between =>
      obtain rfl : between = node := Option.some.inj ((h'.keeps hm).symm.trans hn'')
      exact h.adds hn hm

theorem keeps_put (h : t.node? place = none) (hn : t.node? other = some node) {new : Node} :
    (t.put place new).node? other = some node := by
  have hne : other ≠ place := by
    rintro rfl
    rw [h] at hn
    cases hn
  rwa [node?_put_of_ne hne]

theorem grows_put_directory (h : t.node? place = none) : t.Grows (t.put place .directory) where
  conditions := rfl
  contents := rfl
  sent := rfl
  keeps hn := keeps_put h hn
  adds {other node} hn hn' := by
    by_cases hp : other = place
    · have hne : place ≠ [] := ne_nil_of_node?_ne (t := t) (by simp [h])
      rw [hp, node?_put_self hne] at hn'
      exact (Option.some.inj hn').symm
    · rw [node?_put_of_ne hp, hn] at hn'
      cases hn'

theorem node?_of_newPlace (h : t.newPlace path = .ok place) : t.node? place = none := by
  obtain ⟨_, -, h⟩ := bind_eq_ok_iff.mp h
  split at h
  case h_1 => cases h
  case h_2 name _ =>
    obtain ⟨above, -, h⟩ := bind_eq_ok_iff.mp h
    obtain ⟨_, -, h⟩ := bind_eq_ok_iff.mp h
    obtain ⟨-, h⟩ := check_eq_ok_iff.mp h
    obtain ⟨-, h⟩ := check_eq_ok_iff.mp h
    obtain ⟨hn, h⟩ := check_eq_ok_iff.mp h
    obtain ⟨_, -, h⟩ := bind_eq_ok_iff.mp h
    obtain rfl := Except.ok.inj h
    simpa using hn

theorem grows_of_makeDirectory (h : t.makeDirectory path = .ok t') : t.Grows t' := by
  obtain ⟨place, hp, rfl⟩ := map_eq_ok_iff.mp h
  exact grows_put_directory (node?_of_newPlace hp)

theorem grows_makeAll (t : Tree) (paths : List String) : t.Grows (t.makeAll paths).1 := by
  fun_induction t.makeAll paths with
  | case1 => exact .refl t
  | case2 path above t' h => exact grows_of_makeDirectory h
  | case3 path above h t' fault ha ih => rwa [ha] at ih
  | case4 path above h t' ha t'' h' ih =>
    rw [ha] at ih
    exact ih.trans (grows_of_makeDirectory h')
  | case5 path above h t' ha fault h' ih => rwa [ha] at ih
  | case6 => exact .refl t

theorem grows_makeDirectories (t : Tree) (path : String) : t.Grows (t.makeDirectories path).1 :=
  grows_makeAll t (Path.ancestors path)

/-- What paths lead to is still found where it was. -/
theorem Keeps.locate (hk : t.Keeps t') {aim aim' : Aim} (ha : Allows aim aim')
    (h : t.locate aim path = .ok place)
    (hl : ∀ target, t'.node? place = some (.link target) → t.node? place = some (.link target)) :
    t'.locate aim' path = .ok place := by
  rw [locate_eq_ok_iff] at h ⊢
  have hs : t'.start path = t.start path := by rw [start, start, hk.conditions]
  rw [hs]
  exact ⟨h.1, h.2.of_keeps hk ha hl⟩

theorem Keeps.file? (hk : t.Keeps t') (h : t.file? path = some (place, number)) :
    t'.file? path = some (place, number) := by
  obtain ⟨hl, hn⟩ := file?_eq_some_iff.mp h
  have hn' := hk.node hn
  refine file?_eq_some_iff.mpr ⟨hk.locate (.inl rfl) hl ?_, hn'⟩
  intro target ht
  rw [hn'] at ht
  cases ht

theorem Wrote.keepsAll (h : t.Wrote t' place number octets) : t.Keeps t' :=
  ⟨h.conditions, h.keeps⟩

/-- Every path to a file still reads as it did, unless it led to the file that was written. -/
theorem Wrote.content? (h : t.Wrote t' place number octets) {old : ByteArray}
    (ho : t.content? path = some old) :
    t'.content? path = some old ∨ ∃ found, t.file? path = some (found, number) := by
  obtain ⟨⟨found, n⟩, hf, rfl⟩ := Option.map_eq_some_iff.mp ho
  by_cases hn : n = number
  · exact .inr ⟨found, hn ▸ hf⟩
  · exact .inl (Option.map_eq_some_iff.mpr ⟨(found, n), h.keepsAll.file? hf, h.others hn⟩)

theorem Sent.keepsAll (h : t.Sent t' place octets) : t.Keeps t' :=
  ⟨h.grows.conditions, h.grows.keeps⟩

theorem Sent.content? (h : t.Sent t' place octets) {old : ByteArray}
    (ho : t.content? path = some old) : t'.content? path = some old := by
  obtain ⟨⟨found, n⟩, hf, rfl⟩ := Option.map_eq_some_iff.mp ho
  exact Option.map_eq_some_iff.mpr ⟨(found, n), h.keepsAll.file? hf, congrFun h.grows.contents n⟩

theorem Wrote.content?_eq_some (h : t.Wrote t' place number octets)
    (hl : t'.locate .target path = .ok place) : t'.content? path = some octets := by
  rw [Tree.content?, file?_eq_some_iff.mpr ⟨hl, h.written⟩, Option.map_some, h.content]

theorem Wrote.of_grows (hg : t.Grows t') (h : t'.Wrote t'' place number octets) :
    t.Wrote t'' place number octets where
  conditions := h.conditions.trans hg.conditions
  written := h.written
  content := h.content
  isNew hn other ho := by
    -- A directory that was made at the location would still be there.
    have hn' : t'.node? place = none := by
      rw [Option.eq_none_iff_forall_ne_some]
      rintro node hp
      obtain rfl := hg.adds hn hp
      cases (h.keeps hp).symm.trans h.written
    exact h.isNew hn' other (hg.keeps ho)
  others hn := (h.others hn).trans (congrFun hg.contents _)
  sent := h.sent.trans hg.sent
  keeps hn := h.keeps (hg.keeps hn)
  adds {other node} ho hn hn'' := by
    cases hm : t'.node? other with
    | none => exact h.adds ho hm hn''
    | some between =>
      obtain rfl : between = node := Option.some.inj ((h.keeps hm).symm.trans hn'')
      exact hg.adds hn hm

theorem Sent.of_grows (hg : t.Grows t') (h : t'.Sent t'' place octets) :
    t.Sent t'' place octets where
  device := by
    cases hn : t.node? place with
    | none => cases hg.adds hn h.device
    | some node => exact (hg.keeps hn).symm.trans h.device
  sent := by rw [h.sent, hg.sent]
  grows := by
    have hg' := hg.trans h.grows
    rwa [hg.sent] at hg'

theorem Reached.of_grows (hg : t.Grows t') (h : t'.Reached t'' place octets) :
    t.Reached t'' place octets := by
  cases h with
  | file h => exact .file (h.of_grows hg)
  | device h => exact .device (h.of_grows hg)

theorem wrote_put_file (h : t.node? place = none) (t' : Tree)
    (ht : t' = (t.put place (.file t.freshNumber)).setContent t.freshNumber octets) :
    t.Wrote t' place t.freshNumber octets := by
  subst ht
  have hne : place ≠ [] := ne_nil_of_node?_ne (t := t) (by simp [h])
  refine ⟨rfl, node?_put_self hne, contents_setContent_self, fun _ => t.node?_ne_file_freshNumber,
    fun hn => contents_setContent_of_ne hn, rfl, fun hn => keeps_put h hn, fun ho hn hn' => ?_⟩
  rw [node?_setContent, node?_put_of_ne ho, hn] at hn'
  cases hn'

theorem wrote_setContent (h : t.node? place = some (.file number)) :
    t.Wrote (t.setContent number octets) place number octets where
  conditions := rfl
  written := h
  content := contents_setContent_self
  isNew hn := by rw [h] at hn; cases hn
  others hn := contents_setContent_of_ne hn
  sent := rfl
  keeps hn := hn
  adds _ hn hn' := by rw [node?_setContent, hn] at hn'; cases hn'

theorem Wrote.append (h : t.Wrote t' place number .empty) :
    t.Wrote (t'.append place octets) place number octets := by
  have ha : t'.append place octets = t'.setContent number octets := by
    rw [Tree.append, h.written]
    simp only [h.content, ByteArray.empty_append]
  rw [ha]
  exact ⟨h.conditions, h.written, contents_setContent_self, h.isNew,
    fun hn => (contents_setContent_of_ne hn).trans (h.others hn), h.sent, h.keeps, h.adds⟩

theorem sent_append (h : t.node? place = some .device) :
    t.Sent (t.append place octets) place octets := by
  rw [append, h]
  exact ⟨h, rfl, .refl t⟩

theorem create_cases (h : t.create path = .ok (t', place)) :
    t.locate .newFile path = .ok place ∧
      ((∃ number, t.Wrote t' place number .empty) ∨ t.node? place = some .device ∧ t' = t) := by
  obtain ⟨found, hl, h⟩ := bind_eq_ok_iff.mp h
  split at h
  case h_1 hn =>
    obtain ⟨_, -, h⟩ := bind_eq_ok_iff.mp h
    cases h
    exact ⟨hl, .inl ⟨_, wrote_put_file hn _ rfl⟩⟩
  case h_2 number hn =>
    obtain ⟨_, -, h⟩ := bind_eq_ok_iff.mp h
    cases h
    exact ⟨hl, .inl ⟨number, wrote_setContent hn⟩⟩
  case h_3 hn =>
    obtain ⟨_, -, h⟩ := bind_eq_ok_iff.mp h
    cases h
    exact ⟨hl, .inr ⟨hn, rfl⟩⟩
  case h_4 => cases h
  case h_5 => cases h

theorem fitting_of_none (h : (t.fitting place octets).2 = none) :
    (t.fitting place octets).1 = octets := by
  unfold fitting at h ⊢
  split at h
  case h_1 =>
    split_ifs at h ⊢
    rfl
  case h_2 => rfl

theorem exists_fitting_eq_extract (t : Tree) (place : Location) (octets : ByteArray) :
    ∃ n, (t.fitting place octets).1 = octets.extract 0 n := by
  unfold fitting
  split
  case h_1 room _ _ =>
    split_ifs
    · exact ⟨room, rfl⟩
    · exact ⟨octets.size, ByteArray.extract_zero_size.symm⟩
  case h_2 => exact ⟨octets.size, ByteArray.extract_zero_size.symm⟩

/-- Nothing is written, or a front part of the content gets where the path leads to. It is all of
the content if there is no fault. -/
theorem write_cases (t : Tree) (path : String) (content : ByteArray) :
    (∃ fault, t.write path content = (t, some fault)) ∨
    ∃ t' place octets fault, t.write path content = (t', fault) ∧
      t.locate .newFile path = .ok place ∧ t.Reached t' place octets ∧
      (fault = none → octets = content) ∧ ∃ n, octets = content.extract 0 n := by
  unfold write
  cases hc : t.create path with
  | error fault => exact .inl ⟨fault, rfl⟩
  | ok created =>
    obtain ⟨t', place⟩ := created
    obtain ⟨hl, h⟩ := create_cases hc
    refine .inr ⟨_, place, _, _, rfl, hl, ?_, fitting_of_none, exists_fitting_eq_extract _ _ _⟩
    rcases h with ⟨number, hw⟩ | ⟨hd, rfl⟩
    · exact .file hw.append
    · exact .device (sent_append hd)

/-- A path that was written to leads where it led to, without making anything any more. -/
theorem Reached.locate (h : t.Reached t' place octets) (hl : t.locate .newFile path = .ok place) :
    t'.locate .target path = .ok place := by
  have hk : t.Keeps t' ∧ ∀ target, t'.node? place ≠ some (.link target) := by
    cases h with
    | file h => exact ⟨h.keepsAll, fun target ht => by cases h.written.symm.trans ht⟩
    | device h =>
      have hd : t'.node? place = some .device := h.grows.keeps h.device
      exact ⟨h.keepsAll, fun target ht => by cases hd.symm.trans ht⟩
  exact hk.1.locate (.inr ⟨rfl, rfl⟩) hl fun target ht => absurd ht (hk.2 target)

theorem decodeUtf8_toUTF8 (text : String) : decodeUtf8 text.toUTF8 = .ok text := by
  have h : text.toUTF8.IsValidUTF8 := text.isValidUTF8
  rw [decodeUtf8, String.fromUTF8?, dif_pos h]
  rfl

theorem read_eq_ok {text : String} (hl : t.locate .target path = .ok place)
    (hn : t.node? place = some (.file number)) (hc : t.contents number = text.toUTF8)
    (hr : t.refusal .read place = none) : t.read path = .ok text := by
  rw [read, file?_eq_some_iff.mpr ⟨hl, hn⟩]
  simp only [permit, hr, hc, decodeUtf8_toUTF8]
  rfl

end Tree

end TypedTag.Files
