import Mathlib.Data.List.TakeWhile
import TypedTag.Proofs.Command.Order
import TypedTag.Proofs.Files.Path
import TypedTag.Proofs.Files.Walk

/-! # Which documents are found

The documents are the locations of the files that walks meet by a path with a wanted extension, or
the location of the only path if there are none. Their list is in order, so it does not depend on
how the walks, the paths or the extensions are listed.
-/

namespace TypedTag.Command

open Files Path

/-- An extension is given, with any number of dots in front. -/
def Given (extensions : List String) (extension : String) : Prop :=
  ∃ dots, String.ofList (List.replicate dots '.' ++ extension.toList) ∈ extensions

def Meets (files : FileView) (arguments : DocumentArguments) (path : String) : Prop :=
  (∃ argument ∈ arguments.paths, .ok ⟨path, true⟩ ∈ files.walk argument) ∧
    ∃ extension, HasExtension path extension ∧ Given arguments.extensions extension

def Located (files : FileView) (arguments : DocumentArguments) (place : Location) : Prop :=
  ∃ path, Meets files arguments path ∧ files.canonical path = .ok place

/-- No file that is met has a location, and the only path is that of a file. -/
def Alone (files : FileView) (arguments : DocumentArguments) (path : String) : Prop :=
  (∀ place, ¬ Located files arguments place) ∧ arguments.paths = [path] ∧ files.isFile path = true

/-- The same files are searched for the same extensions, in whatever order all of this is listed. -/
structure SameSearch (files files' : FileView) (arguments arguments' : DocumentArguments) :
    Prop where
  paths : arguments.paths.Perm arguments'.paths
  walk path : (files.walk path).Perm (files'.walk path)
  canonical path : files.canonical path = files'.canonical path
  isFile path : files.isFile path = files'.isFile path
  extensions extension : extension ∈ arguments.extensions.map wantedExtension ↔
    extension ∈ arguments'.extensions.map wantedExtension

variable {files files' : FileView} {arguments arguments' : DocumentArguments} {place : Location}
  {path extension : String}

theorem mem_map_wantedExtension {extensions : List String} (h : '.' ∉ extension.toList) :
    extension ∈ extensions.map wantedExtension ↔ Given extensions extension := by
  constructor
  · intro hm
    obtain ⟨given, hg, rfl⟩ := List.mem_map.mp hm
    have hr : given.toList.takeWhile (· = '.') =
        List.replicate (given.toList.takeWhile (· = '.')).length '.' :=
      List.eq_replicate_of_mem fun c hc => by simpa using List.mem_takeWhile_imp hc
    refine ⟨(given.toList.takeWhile (· = '.')).length, ?_⟩
    rwa [wantedExtension, String.toList_ofList, ← hr, List.takeWhile_append_dropWhile,
      String.ofList_toList]
  · rintro ⟨dots, hm⟩
    have hd : extension.toList.dropWhile (· = '.') = extension.toList :=
      List.dropWhile_eq_self_iff.mpr fun hl hc => h (of_decide_eq_true hc ▸ List.getElem_mem hl)
    refine List.mem_map.mpr ⟨_, hm, ?_⟩
    rw [wantedExtension, String.toList_ofList, List.dropWhile_append, List.dropWhile_replicate]
    simp [hd]

theorem isDocument_iff {extensions : List String} {entry : Entry} :
    isDocument extensions entry = true ↔ entry.isFile = true ∧
      ∃ extension, HasExtension entry.path extension ∧ Given extensions extension := by
  rw [isDocument, Bool.and_eq_true, Option.any_eq_true]
  refine and_congr_right fun _ => exists_congr fun extension => ?_
  rw [extension?_eq_some_iff, List.contains_iff_mem]
  refine and_congr_right fun h => mem_map_wantedExtension ?_
  obtain ⟨_, _, _, _, _, _, _, hdot⟩ := h
  exact hdot

theorem mem_successes {ε α : Type} {results : List (Except ε α)} {a : α} :
    a ∈ successes results ↔ .ok a ∈ results := by
  rw [successes, List.mem_filterMap]
  constructor
  · rintro ⟨result, hm, h⟩
    cases result with
    | error e => cases h
    | ok b =>
      obtain rfl := Option.some.inj h
      exact hm
  · intro hm
    exact ⟨_, hm, rfl⟩

theorem locateFile_eq_ok_iff :
    locateFile files path = .ok place ↔ files.canonical path = .ok place :=
  mapError_eq_ok_iff

theorem locateFile_eq_error_iff {e : DocumentError} :
    locateFile files path = .error e ↔ ∃ fault, files.canonical path = .error fault ∧
      DocumentError.lost path fault = e :=
  mapError_eq_error_iff

theorem ofStep_eq_some_iff {extensions : List String} {step : WalkStep}
    {result : Except DocumentError Location} : ofStep files extensions step = some result ↔
      (∃ e, step = .error e ∧ result = .error (.walk e)) ∨
      ∃ path, step = .ok ⟨path, true⟩ ∧ result = locateFile files path ∧
        ∃ extension, HasExtension path extension ∧ Given extensions extension := by
  constructor
  · intro h
    cases step with
    | error e =>
      cases h
      exact .inl ⟨e, rfl, rfl⟩
    | ok entry =>
      simp only [ofStep, Option.ite_none_right_eq_some, Option.some.injEq] at h
      obtain ⟨hd, rfl⟩ := h
      obtain ⟨hf, he⟩ := isDocument_iff.mp hd
      obtain ⟨path, isFile⟩ := entry
      obtain rfl : isFile = true := hf
      exact .inr ⟨path, rfl, rfl, he⟩
  · rintro (⟨e, rfl, rfl⟩ | ⟨path, rfl, rfl, he⟩)
    · rfl
    · rw [ofStep, if_pos (isDocument_iff.mpr ⟨rfl, he⟩)]

theorem mem_successes_met : place ∈ successes (met files arguments) ↔
    Located files arguments place := by
  rw [mem_successes, met, List.mem_filterMap]
  simp only [ofStep_eq_some_iff, List.mem_flatMap]
  constructor
  · rintro ⟨step, ⟨argument, ha, hw⟩, ⟨e, -, h⟩ | ⟨path, rfl, hl, he⟩⟩
    · cases h
    · exact ⟨path, ⟨⟨argument, ha, hw⟩, he⟩, locateFile_eq_ok_iff.mp hl.symm⟩
  · rintro ⟨path, ⟨⟨argument, ha, hw⟩, he⟩, hl⟩
    exact ⟨_, ⟨argument, ha, hw⟩, .inr ⟨path, rfl, (locateFile_eq_ok_iff.mpr hl).symm, he⟩⟩

theorem mem_onlyFile {result : Except DocumentError Location} :
    result ∈ onlyFile files arguments.paths ↔ ∃ path, arguments.paths = [path] ∧
      files.isFile path = true ∧ result = locateFile files path := by
  unfold onlyFile
  split
  case h_1 path hp =>
    cases hf : files.isFile path <;> simp [hp, hf]
  case h_2 paths hp =>
    simp only [List.not_mem_nil, false_iff]
    rintro ⟨path, h, -⟩
    exact hp path h

theorem successes_met_eq_nil_iff : successes (met files arguments) = [] ↔
    ∀ place, ¬ Located files arguments place := by
  simp only [List.eq_nil_iff_forall_not_mem, mem_successes_met]

theorem search_of_located (h : Located files arguments place) :
    search files arguments = met files arguments := by
  have hne : successes (met files arguments) ≠ [] := fun hn => successes_met_eq_nil_iff.mp hn _ h
  rw [search, if_neg (by simpa using hne)]

theorem search_of_not_located (h : ∀ place, ¬ Located files arguments place) :
    search files arguments = met files arguments ++ onlyFile files arguments.paths := by
  rw [search, if_pos (List.isEmpty_iff.mpr (successes_met_eq_nil_iff.mpr h))]

theorem mem_search_iff {result : Except DocumentError Location} :
    result ∈ search files arguments ↔ result ∈ met files arguments ∨
      ∃ path, Alone files arguments path ∧ result = locateFile files path := by
  by_cases h : ∃ place, Located files arguments place
  · obtain ⟨place, h⟩ := h
    rw [search_of_located h, or_iff_left]
    rintro ⟨path, ⟨hn, -⟩, -⟩
    exact hn place h
  · have hn : ∀ place, ¬ Located files arguments place := fun place hl => h ⟨place, hl⟩
    rw [search_of_not_located hn, List.mem_append, mem_onlyFile]
    refine or_congr_right (exists_congr fun path => ?_)
    rw [Alone, and_assoc, and_assoc]
    exact (and_iff_right hn).symm

theorem mem_places_iff : place ∈ (discover files arguments).1 ↔
    Located files arguments place ∨
      ∃ path, Alone files arguments path ∧ files.canonical path = .ok place := by
  rw [discover, mem_inOrder, mem_successes, mem_search_iff, ← mem_successes, mem_successes_met]
  refine or_congr_right (exists_congr fun path => and_congr_right fun _ => ?_)
  rw [← locateFile_eq_ok_iff]
  exact eq_comm

/-- Where a walk from a file meets only that file, the only path is looked at if no document is
met. -/
theorem mem_places_iff_of_walksFiles (hf : files.WalksFiles) :
    place ∈ (discover files arguments).1 ↔ Located files arguments place ∨
      (¬ ∃ path, Meets files arguments path) ∧ ∃ path, arguments.paths = [path] ∧
        files.isFile path = true ∧ files.canonical path = .ok place := by
  rw [mem_places_iff]
  constructor
  · rintro (h | ⟨path, ⟨hn, hp, hfile⟩, hc⟩)
    · exact .inl h
    · refine .inr ⟨?_, path, hp, hfile, hc⟩
      rintro ⟨other, ⟨argument, ha, hw⟩, he⟩
      obtain rfl : argument = path := by simpa [hp] using ha
      obtain rfl : other = argument := by simpa [hf argument hfile] using hw
      exact hn place ⟨other, ⟨⟨other, ha, hw⟩, he⟩, hc⟩
  · rintro (h | ⟨hn, path, hp, hfile, hc⟩)
    · exact .inl h
    · refine .inr ⟨path, ⟨?_, hp, hfile⟩, hc⟩
      rintro place ⟨other, hm, -⟩
      exact hn ⟨other, hm⟩

theorem SameSearch.located_iff (h : SameSearch files files' arguments arguments') :
    Located files arguments place ↔ Located files' arguments' place := by
  refine exists_congr fun path => and_congr ?_ (by rw [h.canonical])
  refine and_congr ?_ (exists_congr fun extension => and_congr_right fun he => ?_)
  · constructor
    · rintro ⟨argument, ha, hw⟩
      exact ⟨argument, h.paths.mem_iff.mp ha, (h.walk argument).mem_iff.mp hw⟩
    · rintro ⟨argument, ha, hw⟩
      exact ⟨argument, h.paths.mem_iff.mpr ha, (h.walk argument).mem_iff.mpr hw⟩
  · obtain ⟨_, _, _, _, _, _, _, hdot⟩ := he
    rw [← mem_map_wantedExtension hdot, ← mem_map_wantedExtension hdot]
    exact h.extensions extension

theorem SameSearch.alone_iff (h : SameSearch files files' arguments arguments') :
    Alone files arguments path ↔ Alone files' arguments' path := by
  refine and_congr (forall_congr' fun place => not_congr h.located_iff) (and_congr ?_ ?_)
  · constructor
    · intro hp
      exact List.perm_singleton.mp (hp ▸ h.paths.symm)
    · intro hp
      exact List.perm_singleton.mp (hp ▸ h.paths)
  · rw [h.isFile]

/-- The list of documents increases strictly. It has the locations of all files that walks meet by a
path with a given extension. Only if there are none, it has the location of the only path, if that
is a file. So it is the same for the same search, in whatever order that is listed. -/
theorem places_exact_and_stable (files : FileView) (arguments : DocumentArguments) :
    let places := (discover files arguments).1
    places.Pairwise (· < ·) ∧
    (∀ place, place ∈ places ↔ Located files arguments place ∨
      ∃ path, Alone files arguments path ∧ files.canonical path = .ok place) ∧
    (files.WalksFiles → ∀ place, place ∈ places ↔ Located files arguments place ∨
      (¬ ∃ path, Meets files arguments path) ∧ ∃ path, arguments.paths = [path] ∧
        files.isFile path = true ∧ files.canonical path = .ok place) ∧
    ∀ files' arguments', SameSearch files files' arguments arguments' →
      (discover files' arguments').1 = places := by
  intro places
  have ho : ∀ files arguments, (discover files arguments).1.Pairwise (· < ·) :=
    fun _ _ => pairwise_lt_inOrder _
  refine ⟨ho files arguments, fun place => mem_places_iff,
    fun hf place => mem_places_iff_of_walksFiles hf, fun files' arguments' h => ?_⟩
  refine eq_of_pairwise_lt (ho files' arguments') (ho files arguments) fun place => ?_
  rw [mem_places_iff, mem_places_iff, h.located_iff]
  refine or_congr_right (exists_congr fun path => ?_)
  rw [h.alone_iff, h.canonical]

end TypedTag.Command
