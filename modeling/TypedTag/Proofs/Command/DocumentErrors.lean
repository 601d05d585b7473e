import TypedTag.Proofs.Command.Discovery
import TypedTag.Proofs.Command.Policy
import TypedTag.Proofs.Resolver.Contributions

/-! # How document errors are reported

Errors have three sources: the steps of the walks, the only path where it is looked at for want of
documents, and the files of the documents. Each of them is reported in its order, and none of them
hides another one.
-/

namespace TypedTag.Command

open Document Files Naming Path Resolver Text

def reported {ε α : Type} : Except (List ε) α → List ε
  | .error errors => errors
  | .ok _ => []

inductive Strays (files : FileView) (arguments : DocumentArguments) :
    WalkStep → DocumentError → Prop
  | walk (e : WalkError) : Strays files arguments (.error e) (.walk e)
  | lost {path extension : String} {fault : Fault} : HasExtension path extension →
      Given arguments.extensions extension → files.canonical path = .error fault →
      Strays files arguments (.ok ⟨path, true⟩) (.lost path fault)

inductive StraysAlone (files : FileView) (arguments : DocumentArguments) :
    String → DocumentError → Prop
  | lost {path : String} {fault : Fault} : Alone files arguments path →
      files.canonical path = .error fault → StraysAlone files arguments path (.lost path fault)

inductive Breaks (files : FileView) (parse : Parser) : Location → DocumentError → Prop
  | source {place : Location} {e : ResolveError} : (Step.file files place.path).Fails parse e →
      Breaks files parse place (.source e)

def fileErrors (files : FileView) (namer : Namer) (parse : Parser) (places : List Location) :
    List DocumentError :=
  (failures (places.map fun place => namer.resolveFile files place.path parse)).map .source

variable {parse : Parser} {files : FileView} {namer : Namer} {arguments : DocumentArguments}
  {place : Location} {path : String} {fault : Fault} {r : Resolver} {errors : List DocumentError}

theorem failures_append {ε α : Type} (xs ys : List (Except ε α)) :
    failures (xs ++ ys) = failures xs ++ failures ys :=
  List.filterMap_append

theorem gathers_failures {α β ε : Type} {f : α → Option (Except ε β)} {R : α → ε → Prop}
    (h : ∀ a e, f a = some (.error e) ↔ R a e) (as : List α) :
    Gathers R as (failures (as.filterMap f)) := by
  rw [failures, List.filterMap_filterMap]
  refine .filterMap (fun a e => ?_) as
  rw [← h]
  cases f a with
  | none => simp
  | some result => cases result <;> simp

theorem gathers_met : Gathers (Strays files arguments) (arguments.paths.flatMap files.walk)
    (failures (met files arguments)) := by
  refine gathers_failures (fun step error => ?_) _
  rw [ofStep_eq_some_iff]
  constructor
  · rintro (⟨e, rfl, h⟩ | ⟨path, rfl, hl, extension, he, hg⟩)
    · cases h
      exact .walk e
    · obtain ⟨fault, hc, rfl⟩ := locateFile_eq_error_iff.mp hl.symm
      exact .lost he hg hc
  · rintro (e | ⟨he, hg, hc⟩)
    · exact .inl ⟨e, rfl, rfl⟩
    · exact .inr ⟨_, rfl, (locateFile_eq_error_iff.mpr ⟨_, hc, rfl⟩).symm, _, he, hg⟩

theorem gathers_onlyFile (hn : ∀ place, ¬ Located files arguments place) :
    Gathers (StraysAlone files arguments) arguments.paths
      (failures (onlyFile files arguments.paths)) := by
  unfold onlyFile
  split
  case h_1 path hp =>
    cases hf : files.isFile path with
    | false =>
      refine hp ▸ .skip ?_ .nil
      rintro _ ⟨⟨-, -, ht⟩, -⟩
      simp [hf] at ht
    | true =>
      have ha : Alone files arguments path := ⟨hn, hp, hf⟩
      cases hc : files.canonical path with
      | error fault =>
        rw [if_pos rfl, locateFile_eq_error_iff.mpr ⟨fault, hc, rfl⟩, hp]
        exact .take (.lost ha hc) .nil
      | ok place =>
        rw [if_pos rfl, locateFile_eq_ok_iff.mpr hc, hp]
        refine .skip ?_ .nil
        rintro _ ⟨-, he⟩
        simp [hc] at he
  case h_2 paths hp =>
    refine .nil_of_forall_not ?_
    rintro path - _ ⟨⟨-, h, -⟩, -⟩
    exact hp path h

theorem exists_gathers_single (files : FileView) (arguments : DocumentArguments) : ∃ single,
    Gathers (StraysAlone files arguments) arguments.paths single ∧
      (discover files arguments).2 = failures (met files arguments) ++ single := by
  by_cases h : ∃ place, Located files arguments place
  · obtain ⟨place, h⟩ := h
    refine ⟨[], .nil_of_forall_not ?_, ?_⟩
    · rintro path - _ ⟨⟨hn, -⟩, -⟩
      exact hn place h
    · rw [discover, search_of_located h, List.append_nil]
  · have hn : ∀ place, ¬ Located files arguments place := fun place hl => h ⟨place, hl⟩
    refine ⟨_, gathers_onlyFile hn, ?_⟩
    rw [discover, search_of_not_located hn, failures_append]

theorem gathers_fileErrors (namer : Namer) (places : List Location) :
    Gathers (Breaks files parse) places (fileErrors files namer parse places) := by
  have h : Gathers (fun place e => (Step.file files place.path).Fails parse e) places
      (failures (places.map fun place => namer.resolveFile files place.path parse)) := by
    rw [← List.filterMap_eq_map]
    refine gathers_failures (fun place e => ?_) places
    have hs : (Step.file files place.path).resolve parse namer = .error e ↔
        (Step.file files place.path).Fails parse e := Step.resolve_eq_error_iff
    rw [← hs]
    exact ⟨Option.some.inj, congrArg some⟩
  refine h.imp (fun place e hf => .source hf) ?_
  rintro place _ ⟨hf⟩
  exact ⟨_, hf⟩

theorem fileErrors_append (places places' : List Location) :
    fileErrors files namer parse (places ++ places') =
      fileErrors files namer parse places ++ fileErrors files namer parse places' := by
  rw [fileErrors, List.map_append, failures_append, List.map_append]
  rfl

theorem fileErrors_congr (files' : FileView) {places : List Location}
    (h : ∀ place ∈ places, files'.read place.path = files.read place.path) :
    fileErrors files' namer parse places = fileErrors files namer parse places := by
  have hr : ∀ place ∈ places, namer.resolveFile files' place.path parse =
      namer.resolveFile files place.path parse := by
    intro place hp
    rw [Namer.resolveFile, h place hp, Namer.resolveFile]
  rw [fileErrors, List.map_congr_left hr, fileErrors]

theorem reported_resolveSources (files : FileView) (namer : Namer)
    (arguments : DocumentArguments) (parse : Parser) :
    reported (resolveSources files namer arguments parse) = (discover files arguments).2 ++
      fileErrors files namer parse (discover files arguments).1 := by
  unfold resolveSources
  simp only
  split
  case isTrue h => exact (List.isEmpty_iff.mp h).symm
  case isFalse => rfl

theorem exists_resolveSources_iff : (∃ r, resolveSources files namer arguments parse = .ok r) ↔
    reported (resolveSources files namer arguments parse) = [] := by
  unfold resolveSources
  simp only
  split
  case isTrue => simp [reported]
  case isFalse h => simpa [reported] using h

theorem exists_gathers_reported (files : FileView) (namer : Namer)
    (arguments : DocumentArguments) (parse : Parser) : ∃ walked single broken,
    reported (resolveSources files namer arguments parse) = walked ++ single ++ broken ∧
      Gathers (Strays files arguments) (arguments.paths.flatMap files.walk) walked ∧
      Gathers (StraysAlone files arguments) arguments.paths single ∧
      Gathers (Breaks files parse) (discover files arguments).1 broken := by
  obtain ⟨single, ha, he⟩ := exists_gathers_single files arguments
  refine ⟨_, single, _, ?_, gathers_met, ha, gathers_fileErrors namer _⟩
  rw [reported_resolveSources, he]

theorem canonical_eq_ok_or_error (files : FileView) (path : String) :
    (∃ place, files.canonical path = .ok place) ∨ ∃ fault, files.canonical path = .error fault := by
  cases files.canonical path <;> simp

theorem forall_not_strays_iff :
    (∀ step ∈ arguments.paths.flatMap files.walk, ∀ e, ¬ Strays files arguments step e) ↔
      (∀ argument ∈ arguments.paths, ∀ e, .error e ∉ files.walk argument) ∧
      ∀ path, Meets files arguments path → ∃ place, files.canonical path = .ok place := by
  constructor
  · intro h
    refine ⟨fun argument ha e he => ?_, fun path hm => ?_⟩
    · exact h _ (List.mem_flatMap.mpr ⟨argument, ha, he⟩) _ (.walk e)
    · obtain ⟨hs, extension, he, hg⟩ := hm
      refine (canonical_eq_ok_or_error files path).resolve_right fun ⟨fault, hc⟩ => ?_
      exact h _ (List.mem_flatMap.mpr hs) _ (.lost he hg hc)
  · rintro ⟨hw, hm⟩ step hs _ (e | ⟨he, hg, hc⟩)
    · obtain ⟨argument, ha, hs⟩ := List.mem_flatMap.mp hs
      exact hw argument ha e hs
    · obtain ⟨place, hp⟩ := hm _ ⟨List.mem_flatMap.mp hs, _, he, hg⟩
      simp [hp] at hc

theorem forall_not_straysAlone_iff :
    (∀ path ∈ arguments.paths, ∀ e, ¬ StraysAlone files arguments path e) ↔
      ∀ path, Alone files arguments path → ∃ place, files.canonical path = .ok place := by
  constructor
  · intro h path ha
    refine (canonical_eq_ok_or_error files path).resolve_right fun ⟨fault, hc⟩ => ?_
    exact h path (ha.2.1 ▸ List.mem_singleton_self path) _ (.lost ha hc)
  · rintro h path - _ ⟨ha, hc⟩
    obtain ⟨place, hp⟩ := h path ha
    simp [hp] at hc

theorem forall_not_breaks_iff : (∀ e, ¬ Breaks files parse place e) ↔ ∃ text ds,
    files.read place.path = .ok text ∧ parse (withLineFeeds text) = .ok ds := by
  have hf : (∀ e, ¬ Breaks files parse place e) ↔
      ∀ e, ¬ (Step.file files place.path).Fails parse e :=
    ⟨fun h e he => h _ (.source he), fun h _ ⟨he⟩ => h _ he⟩
  rw [hf, Step.forall_not_fails_iff]
  rfl

theorem exists_resolveSources_iff_forall :
    (∃ r, resolveSources files namer arguments parse = .ok r) ↔
      (∀ argument ∈ arguments.paths, ∀ e, .error e ∉ files.walk argument) ∧
      (∀ path, Meets files arguments path ∨ Alone files arguments path →
        ∃ place, files.canonical path = .ok place) ∧
      ∀ place ∈ (discover files arguments).1, ∃ text ds,
        files.read place.path = .ok text ∧ parse (withLineFeeds text) = .ok ds := by
  obtain ⟨walked, single, broken, hr, hw, hs, hb⟩ :=
    exists_gathers_reported files namer arguments parse
  rw [exists_resolveSources_iff, hr, List.append_eq_nil_iff, List.append_eq_nil_iff,
    hw.eq_nil_iff, hs.eq_nil_iff, hb.eq_nil_iff, forall_not_strays_iff, forall_not_straysAlone_iff]
  simp only [forall_not_breaks_iff, or_imp, forall_and, and_assoc]

/-- What is reported about one file stands apart from the rest, which does not depend on it. -/
theorem exists_reported_around (hm : place ∈ (discover files arguments).1)
    {read' : String → Except ReadError String}
    (hr : ∀ other ∈ (discover files arguments).1, other ≠ place →
      read' other.path = files.read other.path) :
    let files' := { files with read := read' }
    ∃ before own own' after,
      reported (resolveSources files namer arguments parse) = before ++ own ++ after ∧
      reported (resolveSources files' namer arguments parse) = before ++ own' ++ after ∧
      Gathers (Breaks files parse) [place] own ∧ Gathers (Breaks files' parse) [place] own' := by
  intro files'
  obtain ⟨left, right, hp⟩ := List.append_of_mem hm
  have ho : (left ++ place :: right).Pairwise (· < ·) := hp ▸ pairwise_lt_inOrder _
  obtain ⟨-, hright, hleft⟩ := List.pairwise_append.mp ho
  have hl : ∀ other ∈ left, read' other.path = files.read other.path := fun other h =>
    hr other (hp ▸ List.mem_append_left _ h) (ne_of_lt (hleft other h place List.mem_cons_self))
  have hg : ∀ other ∈ right, read' other.path = files.read other.path := fun other h =>
    hr other (hp ▸ List.mem_append_right _ (List.mem_cons_of_mem _ h))
      (ne_of_gt ((List.pairwise_cons.mp hright).1 other h))
  have hd : discover files' arguments = discover files arguments := rfl
  refine ⟨(discover files arguments).2 ++ fileErrors files namer parse left, _, _,
    fileErrors files namer parse right, ?_, ?_, gathers_fileErrors namer [place],
    gathers_fileErrors namer [place]⟩
  · rw [reported_resolveSources, hp, List.append_cons, fileErrors_append, fileErrors_append]
    simp only [List.append_assoc]
  · rw [reported_resolveSources, hd, hp, List.append_cons, fileErrors_append, fileErrors_append,
      fileErrors_congr files' hl, fileErrors_congr files' hg]
    simp only [List.append_assoc]

theorem gathers_held (h : resolveSources files namer arguments parse = .ok r) :
    Gathers (fun place s => (Step.file files place.path).Contributes parse namer [s])
      (discover files arguments).1 r.held := by
  rw [resolveSources_eq_run h, Resolver.run_eq, List.flatMap_map]
  simp only [Step.contributes_iff]
  exact .flatMap (fun place => Step.length_found_le parse namer _) _

/-- A walk from the only path meets it, and it has no location. -/
structure Lost (files : FileView) (arguments : DocumentArguments) (path : String) (fault : Fault) :
    Prop where
  paths : arguments.paths = [path]
  isFile : files.isFile path = true
  meets : Meets files arguments path
  canonical : files.canonical path = .error fault

theorem Strays.unique {step : WalkStep} {e e' : DocumentError}
    (h : Strays files arguments step e) (h' : Strays files arguments step e') : e = e' := by
  cases h with
  | walk e =>
    cases h'
    rfl
  | lost _ _ hc =>
    cases h' with
    | lost _ _ hc' => rw [Except.error.inj (hc.symm.trans hc')]

theorem StraysAlone.unique {e e' : DocumentError} (h : StraysAlone files arguments path e)
    (h' : StraysAlone files arguments path e') : e = e' := by
  obtain ⟨-, hc⟩ := h
  obtain ⟨-, hc'⟩ := h'
  rw [Except.error.inj (hc.symm.trans hc')]

section Lost

variable {walked single : List DocumentError}

theorem Lost.alone (hf : files.WalksFiles) (h : Lost files arguments path fault) :
    Alone files arguments path := by
  refine ⟨?_, h.paths, h.isFile⟩
  rintro place ⟨other, ⟨⟨argument, ha, hw⟩, -⟩, hc⟩
  obtain rfl : argument = path := by simpa [h.paths] using ha
  obtain rfl : other = argument := by simpa [hf argument h.isFile] using hw
  simp [h.canonical] at hc

theorem Lost.walked_eq (hf : files.WalksFiles) (h : Lost files arguments path fault)
    (hw : Gathers (Strays files arguments) (arguments.paths.flatMap files.walk) walked) :
    walked = [.lost path fault] := by
  obtain ⟨-, extension, he, hg⟩ := h.meets
  rw [h.paths, List.flatMap_singleton, hf path h.isFile] at hw
  exact hw.unique (fun _ _ _ h h' => h.unique h') (.take (.lost he hg h.canonical) .nil)

theorem Lost.single_eq (hf : files.WalksFiles) (h : Lost files arguments path fault)
    (ha : Gathers (StraysAlone files arguments) arguments.paths single) :
    single = [.lost path fault] := by
  rw [h.paths] at ha
  exact ha.unique (fun _ _ _ h h' => h.unique h') (.take (.lost (h.alone hf) h.canonical) .nil)

theorem mem_walked_and_mem_single_iff (hf : files.WalksFiles)
    (hw : Gathers (Strays files arguments) (arguments.paths.flatMap files.walk) walked)
    (ha : Gathers (StraysAlone files arguments) arguments.paths single) {e : DocumentError} :
    e ∈ walked ∧ e ∈ single ↔
      ∃ path fault, Lost files arguments path fault ∧ e = .lost path fault := by
  constructor
  · rintro ⟨hew, hea⟩
    obtain ⟨path, -, hs⟩ := ha.exists_of_mem hea
    obtain ⟨⟨-, hp, hi⟩, hc⟩ := hs
    obtain ⟨step, hstep, hs⟩ := hw.exists_of_mem hew
    have hm : ∃ argument ∈ arguments.paths, step ∈ files.walk argument := List.mem_flatMap.mp hstep
    obtain rfl : step = .ok ⟨path, true⟩ := by simpa [hp, hf path hi] using hstep
    cases hs with
    | lost he hg _ => exact ⟨path, _, ⟨hp, hi, ⟨hm, _, he, hg⟩, hc⟩, rfl⟩
  · rintro ⟨path, fault, h, rfl⟩
    rw [h.walked_eq hf hw, h.single_eq hf ha]
    simp

/-- Nothing but this path is looked at, and it is reported twice. -/
theorem Lost.resolveSources_eq (hf : files.WalksFiles) (h : Lost files arguments path fault) :
    resolveSources files namer arguments parse =
      .error [.lost path fault, .lost path fault] := by
  obtain ⟨walked, single, broken, hr, hw, ha, hb⟩ :=
    exists_gathers_reported files namer arguments parse
  have hp : (discover files arguments).1 = [] := by
    rw [List.eq_nil_iff_forall_not_mem]
    rintro place hm
    rcases mem_places_iff.mp hm with hl | ⟨other, ⟨-, hp, -⟩, hc⟩
    · exact (h.alone hf).1 place hl
    · obtain rfl : path = other := by simpa [h.paths] using hp
      simp [h.canonical] at hc
  rw [hp] at hb
  cases hb
  rw [h.walked_eq hf hw, h.single_eq hf ha] at hr
  cases hs : resolveSources files namer arguments parse with
  | ok r => simp [hs, reported] at hr
  | error errors => simpa [hs, reported] using hr

end Lost

/-- If documents are not resolved, their errors are those of the steps of the walks, that of the
only path where it is looked at for want of documents, and those of the files, which are in the
order of their locations. A step, a path and a file have one error at most, and that of a file does
not depend on what other files say. There is one repetition. Where a walk meets the only path as a
document that has no location, the path is looked at once more for want of documents, and its error
is told again. If there are no errors at all, the sources are those of the documents with a named
definition. -/
theorem resolveSources_reports_each_error (files : FileView) (namer : Namer)
    (arguments : DocumentArguments) (parse : Parser) :
    let places := (discover files arguments).1
    let result := resolveSources files namer arguments parse
    places.Pairwise (· < ·) ∧
    ((∃ r, result = .ok r) ↔
      (∀ argument ∈ arguments.paths, ∀ e, .error e ∉ files.walk argument) ∧
      (∀ path, Meets files arguments path ∨ Alone files arguments path →
        ∃ place, files.canonical path = .ok place) ∧
      ∀ place ∈ places, ∃ text ds,
        files.read place.path = .ok text ∧ parse (withLineFeeds text) = .ok ds) ∧
    (∀ errors, result = .error errors →
      (Failure.documents errors).message = toString errors.length ++ " document errors:\n" ++
        "\n".intercalate (errors.map fun e => "  * " ++ e.message) ∧
      ∃ walked single broken, errors = walked ++ single ++ broken ∧
        Gathers (Strays files arguments) (arguments.paths.flatMap files.walk) walked ∧
        Gathers (StraysAlone files arguments) arguments.paths single ∧
        Gathers (Breaks files parse) places broken ∧
        (files.WalksFiles → ∀ e, e ∈ walked ∧ e ∈ single ↔
          ∃ path fault, Lost files arguments path fault ∧ e = .lost path fault)) ∧
    (∀ place ∈ places, ∀ read' : String → Except ReadError String,
      (∀ other ∈ places, other ≠ place → read' other.path = files.read other.path) →
      let files' := { files with read := read' }
      ∃ before own own' after, reported result = before ++ own ++ after ∧
        reported (resolveSources files' namer arguments parse) = before ++ own' ++ after ∧
        Gathers (Breaks files parse) [place] own ∧ Gathers (Breaks files' parse) [place] own') ∧
    ∀ r, result = .ok r → r.namer = namer ∧
      Gathers (fun place s => (Step.file files place.path).Contributes parse namer [s])
        places r.held := by
  intro places result
  refine ⟨pairwise_lt_inOrder _, exists_resolveSources_iff_forall, fun errors h => ⟨rfl, ?_⟩,
    fun place hp read' hr => exists_reported_around hp hr, fun r h => ⟨?_, gathers_held h⟩⟩
  · obtain ⟨walked, single, broken, hr, hw, hs, hb⟩ :=
      exists_gathers_reported files namer arguments parse
    have he : reported result = errors := by rw [h, reported]
    exact ⟨walked, single, broken, he.symm.trans hr, hw, hs, hb,
      fun hf e => mem_walked_and_mem_single_iff hf hw hs⟩
  · rw [resolveSources_eq_run h, Resolver.run_eq]

def loneDocument (above : Location) : Tree where
  nodes := [(above, .directory), (above ++ ["x.gql"], .file 0)]
  contents := fun _ => "query X \x7b a \x7d".toUTF8
  workingDirectory := above

theorem locate_loneDocument {above : Location} (h : above ≠ []) :
    (loneDocument above).locate .target "x.gql" = .ok (above ++ ["x.gql"]) ∧
      (loneDocument above).isFile "x.gql" = true := by
  have hd : (loneDocument above).node? above = some .directory := by
    simp [loneDocument, Tree.node?, h]
  have hne : (above ++ ["x.gql"] == above) = false := by simp
  have hn : (loneDocument above).node? (above ++ ["x.gql"]) = some (.file 0) := by
    simp [loneDocument, Tree.node?, List.lookup_cons, hne]
  have hs : Path.steps "x.gql" = ["x.gql"] := by decide
  have hl : (loneDocument above).locate .target "x.gql" = .ok (above ++ ["x.gql"]) := by
    refine Tree.locate_eq_ok_iff.mpr ⟨by decide, ?_⟩
    rw [hs]
    exact .down (Tree.enters_of_plain hd rfl (by decide) (by decide) (by decide) (by decide)) hn
      (by simp) .here
  exact ⟨hl, by rw [Tree.isFile, Tree.file?_eq_some_iff.mpr ⟨hl, hn⟩]; rfl⟩

theorem lost_loneDocument {above : Location} (h : above ≠ [])
    (hn : ∀ name ∈ above, '\x00' ∉ name.toList)
    (hl : maxPath ≤ (Location.path (above ++ ["x.gql"])).utf8ByteSize) :
    Lost (loneDocument above).view ⟨none, ["gql"], ["x.gql"]⟩ "x.gql" .nameTooLong := by
  obtain ⟨hloc, hi⟩ := locate_loneDocument h
  have hw := (loneDocument above).walksFiles_view "x.gql" hi
  have he : HasExtension "x.gql" "gql" := extension?_eq_some_iff.mp (by decide)
  have hm : Meets (loneDocument above).view ⟨none, ["gql"], ["x.gql"]⟩ "x.gql" :=
    ⟨⟨"x.gql", by simp, by simp [hw]⟩, "gql", he, 0, by decide⟩
  refine ⟨rfl, hi, hm, Tree.canonical_of_long hloc (fun name hname => ?_) hl⟩
  rcases List.mem_append.mp hname with hname | hname
  · exact hn name hname
  · obtain rfl := List.mem_singleton.mp hname
    decide

/-- A walk meets one file, in a directory so deep that the location is too long for a path. This is
the only thing that goes wrong, and two errors are reported. -/
theorem lone_document_reported_twice :
    let files := loneDocument (List.replicate 16 (String.ofList (List.replicate 255 'd')))
    let arguments : DocumentArguments := ⟨none, ["gql"], ["x.gql"]⟩
    files.walk "x.gql" = [.ok ⟨"x.gql", true⟩] ∧
    files.canonical "x.gql" = .error .nameTooLong ∧
    resolveSources files.view {} arguments =
      .error [.lost "x.gql" .nameTooLong, .lost "x.gql" .nameTooLong] ∧
    documentErrorsMessage [.lost "x.gql" .nameTooLong, .lost "x.gql" .nameTooLong] =
      "2 document errors:\n" ++ "  * x.gql: File name too long (os error 36)\n" ++
        "  * x.gql: File name too long (os error 36)" := by
  intro files arguments
  have h : Lost files.view arguments "x.gql" .nameTooLong := by
    refine lost_loneDocument (List.cons_ne_nil _ _) (fun name hname => ?_) (by decide +kernel)
    rw [List.eq_of_mem_replicate hname, String.toList_ofList]
    exact fun hm => absurd (List.eq_of_mem_replicate hm) (by decide)
  exact ⟨files.walksFiles_view "x.gql" h.isFile, h.canonical,
    h.resolveSources_eq files.walksFiles_view, by decide +kernel⟩

end TypedTag.Command
