import TypedTag.Files.Tree
import TypedTag.Proofs.Outcome
import TypedTag.Proofs.Text.Delimited

/-! # Where paths lead

Following the names of a path, step by step, is a relation between a tree and a location. A path
leads to the same location in every tree that keeps what the first one has, whatever its files say.
-/

namespace TypedTag.Files

open Text

namespace Tree

structure Opens (t : Tree) (here : Location) (name : String) : Prop where
  directory : t.node? here = some .directory
  allowed : t.lookupFault? here name = none

structure Enters (t : Tree) (aim : Aim) (here : Location) (name : String) (names : List String) :
    Prop extends t.Opens here name where
  ne_here : ¬(name = "" ∨ name = ".")
  ne_above : name ≠ ".."
  mayMake : ¬(aim = .newFile ∧ names = [""])
  fits : ¬aim.exceeded here name

/-- Names lead from a directory to a location, by way of at most the given number of links. -/
inductive Leads (t : Tree) (aim : Aim) : Nat → Location → List String → Location → Prop
  | here {links here} : Leads t aim links here [] here
  | stay {links here name names place} : t.Opens here name → name = "" ∨ name = "." →
      Leads t aim links here names place → Leads t aim links here (name :: names) place
  | up {links here names place} : t.Opens here ".." →
      Leads t aim links here.dropLast names place → Leads t aim links here (".." :: names) place
  | missing {links here name} : t.Enters aim here name [] → t.node? (here ++ [name]) = none →
      Leads t aim links here [name] (here ++ [name])
  | link {links here name target} : t.Enters aim here name [] →
      t.node? (here ++ [name]) = some (.link target) → aim = .entry →
      Leads t aim links here [name] (here ++ [name])
  | through {links here name names target place} : t.Enters aim here name names →
      t.node? (here ++ [name]) = some (.link target) → ¬(names = [] ∧ aim = .entry) →
      Leads t aim links (if Path.isAbsolute target then [] else here) (Path.steps target ++ names)
        place →
      Leads t aim (links + 1) here (name :: names) place
  | down {links here name names place node} : t.Enters aim here name names →
      t.node? (here ++ [name]) = some node → (∀ target, node ≠ .link target) →
      Leads t aim links (here ++ [name]) names place →
      Leads t aim links here (name :: names) place

/-- Another tree has everything that is in a tree. Its files may say something else. -/
structure Keeps (t t' : Tree) : Prop where
  conditions : t'.toConditions = t.toConditions
  node {place node} : t.node? place = some node → t'.node? place = some node

/-- A file that could be made or replaced can be looked up in the same way. -/
def Allows (aim aim' : Aim) : Prop :=
  aim' = aim ∨ aim = .newFile ∧ aim' = .target

variable {t t' : Tree} {aim aim' : Aim} {links : Nat} {here place : Location}
  {name path target : String} {names : List String} {node : Node}

theorem enters_of_plain (hd : t.node? here = some .directory)
    (ha : t.lookupFault? here name = none) (hp : name ∉ ["", ".", ".."])
    (hl : name.utf8ByteSize ≤ maxName) (haim : aim ≠ .location) (hn : names ≠ [""]) :
    t.Enters aim here name names where
  directory := hd
  allowed := ha
  ne_here := by rintro (rfl | rfl) <;> simp at hp
  ne_above := by rintro rfl; simp at hp
  mayMake h := hn h.2
  fits := by simpa [Aim.exceeded, haim] using hl

theorem leads_of_follow (h : t.follow links aim here names = .ok place) :
    t.Leads aim links here names place := by
  fun_induction follow t links aim here names with
  | case1 links here =>
    cases h
    exact .here
  | case3 links here name names hd ha hn ih => exact .stay ⟨hd, ha⟩ hn (ih h)
  | case4 links here names hd ha hn ih => exact .up ⟨hd, ha⟩ (ih h)
  | case2 | case5 | case6 | case8 | case10 | case13 => simp at h
  | case7 links here name names hd ha hn hu hm hl hnode he =>
    obtain rfl := List.isEmpty_iff.mp he
    cases h
    exact .missing ⟨⟨hd, ha⟩, hn, hu, hm, hl⟩ hnode
  | case9 links here name names hd ha hn hu hm hl target hnode he =>
    obtain ⟨he, rfl⟩ := he
    obtain rfl := List.isEmpty_iff.mp he
    cases h
    exact .link ⟨⟨hd, ha⟩, hn, hu, hm, hl⟩ hnode rfl
  | case11 here name names hd ha hn hu hm hl target hnode he links start ih =>
    rw [List.isEmpty_iff] at he
    exact .through ⟨⟨hd, ha⟩, hn, hu, hm, hl⟩ hnode he (ih h)
  | case12 links here name names hd ha hn hu hm hl node hne hnode ih =>
    exact .down ⟨⟨hd, ha⟩, hn, hu, hm, hl⟩ hnode (fun target h => hne target h) (ih h)

theorem Enters.follow_missing (h : t.Enters aim here name [])
    (hn : t.node? (here ++ [name]) = none) :
    t.follow links aim here [name] = .ok (here ++ [name]) := by
  simp [follow, h.directory, h.allowed, h.ne_here, h.ne_above, h.fits, hn]

theorem Enters.follow_link (h : t.Enters .entry here name [])
    (hn : t.node? (here ++ [name]) = some (.link target)) :
    t.follow links .entry here [name] = .ok (here ++ [name]) := by
  simp [follow, h.directory, h.allowed, h.ne_here, h.ne_above, h.fits, hn]

theorem Enters.follow_through (h : t.Enters aim here name names)
    (hn : t.node? (here ++ [name]) = some (.link target)) (ha : ¬(names = [] ∧ aim = .entry)) :
    t.follow (links + 1) aim here (name :: names) =
      t.follow links aim (if Path.isAbsolute target then [] else here)
        (Path.steps target ++ names) := by
  simp [follow, h.directory, h.allowed, h.ne_here, h.ne_above, h.mayMake, h.fits, hn, ha]

theorem Enters.follow_down (h : t.Enters aim here name names)
    (hn : t.node? (here ++ [name]) = some node) (hne : ∀ target, node ≠ .link target) :
    t.follow links aim here (name :: names) = t.follow links aim (here ++ [name]) names := by
  cases node with
  | link target => exact absurd rfl (hne target)
  | _ => simp [follow, h.directory, h.allowed, h.ne_here, h.ne_above, h.mayMake, h.fits, hn]

theorem follow_of_leads (h : t.Leads aim links here names place) :
    t.follow links aim here names = .ok place := by
  induction h with
  | here => rw [follow]
  | stay ho hn _ ih => simp [follow, ho.directory, ho.allowed, hn, ih]
  | up ho _ ih => simp [follow, ho.directory, ho.allowed, ih]
  | missing he hnode => exact he.follow_missing hnode
  | link he hnode ha =>
    subst ha
    exact he.follow_link hnode
  | through he hnode ha _ ih => exact (he.follow_through hnode ha).trans ih
  | down he hnode hne _ ih => exact (he.follow_down hnode hne).trans ih

theorem Opens.of_keeps (h : t.Opens here name) (hk : t.Keeps t') : t'.Opens here name where
  directory := hk.node h.directory
  allowed := by
    have ha := h.allowed
    unfold lookupFault? at ha ⊢
    rwa [hk.conditions]

theorem Enters.of_keeps (h : t.Enters aim here name names) (hk : t.Keeps t')
    (ha : Allows aim aim') : t'.Enters aim' here name names where
  toOpens := h.toOpens.of_keeps hk
  ne_here := h.ne_here
  ne_above := h.ne_above
  mayMake := by
    rcases ha with rfl | ⟨-, rfl⟩
    · exact h.mayMake
    · simp
  fits := by
    rcases ha with rfl | ⟨rfl, rfl⟩
    · exact h.fits
    · exact h.fits

theorem Leads.of_keeps (h : t.Leads aim links here names place) (hk : t.Keeps t')
    (ha : Allows aim aim')
    (hl : ∀ target, t'.node? place = some (.link target) → t.node? place = some (.link target)) :
    t'.Leads aim' links here names place := by
  induction h with
  | here => exact .here
  | stay ho hn _ ih => exact .stay (ho.of_keeps hk) hn (ih hl)
  | up ho _ ih => exact .up (ho.of_keeps hk) (ih hl)
  | @missing links here name he hnode =>
    cases hnode' : t'.node? (here ++ [name]) with
    | none => exact .missing (he.of_keeps hk ha) hnode'
    | some node =>
      refine .down (he.of_keeps hk ha) hnode' ?_ .here
      rintro target rfl
      rw [hl target hnode'] at hnode
      cases hnode
  | link he hnode hentry =>
    have hentry' : aim' = .entry := by
      rcases ha with rfl | ⟨rfl, -⟩
      · exact hentry
      · cases hentry
    exact .link (he.of_keeps hk ha) (hk.node hnode) hentry'
  | through he hnode hn _ ih =>
    refine .through (he.of_keeps hk ha) (hk.node hnode) ?_ (ih hl)
    rintro ⟨hnil, rfl⟩
    rcases ha with rfl | ⟨-, h⟩
    · exact hn ⟨hnil, rfl⟩
    · cases h
  | down he hnode hne _ ih => exact .down (he.of_keeps hk ha) (hk.node hnode) hne (ih hl)

theorem Enters.entry (h : t.Enters .target here name names) : t.Enters .entry here name names :=
  { h with mayMake := by simp }

theorem Enters.location (h : t.Enters .target here name names)
    (hx : ¬Aim.exceeded .location here name) : t.Enters .location here name names :=
  { h with mayMake := by simp, fits := hx }

theorem Enters.follow_exceeded (h : t.Enters .target here name names)
    (hx : Aim.exceeded .location here name) :
    t.follow links .location here (name :: names) = .error .nameTooLong := by
  simp [follow, h.directory, h.allowed, h.ne_here, h.ne_above, hx]

/-- Where a path leads is where its location is looked for, unless that is too long on the way. -/
theorem Leads.follow_location (h : t.Leads .target links here names place) :
    t.follow links .location here names = .ok place ∨
      t.follow links .location here names = .error .nameTooLong := by
  induction h with
  | here => exact .inl (by rw [follow])
  | stay ho hn _ ih => simpa [follow, ho.directory, ho.allowed, hn] using ih
  | up ho _ ih => simpa [follow, ho.directory, ho.allowed] using ih
  | link _ _ ha => cases ha
  | @missing _ here name he hnode =>
    by_cases hx : Aim.exceeded .location here name
    · exact .inr (he.follow_exceeded hx)
    · exact .inl ((he.location hx).follow_missing hnode)
  | @through _ here name _ _ _ he hnode _ _ ih =>
    by_cases hx : Aim.exceeded .location here name
    · exact .inr (he.follow_exceeded hx)
    · rwa [(he.location hx).follow_through hnode (by simp)]
  | @down _ here name _ _ _ he hnode hne _ ih =>
    by_cases hx : Aim.exceeded .location here name
    · exact .inr (he.follow_exceeded hx)
    · rwa [(he.location hx).follow_down hnode hne]

/-- What names lead to is met by the last of them, or lies behind a link that is met there. -/
theorem Leads.entry (h : t.Leads .target links here names place) :
    ∃ met, t.Leads .entry links here names met ∧
      (met = place ∨ ∃ target, t.node? met = some (.link target)) := by
  induction h with
  | here => exact ⟨_, .here, .inl rfl⟩
  | stay hd hn _ ih =>
    obtain ⟨met, h, hm⟩ := ih
    exact ⟨met, .stay hd hn h, hm⟩
  | up hd _ ih =>
    obtain ⟨met, h, hm⟩ := ih
    exact ⟨met, .up hd h, hm⟩
  | missing he hnode => exact ⟨_, .missing he.entry hnode, .inl rfl⟩
  | link _ _ ha => cases ha
  | @through links here name names target place he hnode _ _ ih =>
    cases names with
    | nil => exact ⟨_, .link he.entry hnode rfl, .inr ⟨target, hnode⟩⟩
    | cons next names =>
      obtain ⟨met, h, hm⟩ := ih
      exact ⟨met, .through he.entry hnode (by simp) h, hm⟩
  | down he hnode hne _ ih =>
    obtain ⟨met, h, hm⟩ := ih
    exact ⟨met, .down he.entry hnode hne h, hm⟩

theorem locate_eq_ok_iff : t.locate aim path = .ok place ↔
    checkPath path = .ok () ∧ t.Leads aim maxLinks (t.start path) (Path.steps path) place := by
  rw [locate, bind_eq_ok_iff]
  constructor
  · rintro ⟨⟨⟩, hc, h⟩
    exact ⟨hc, leads_of_follow h⟩
  · rintro ⟨hc, h⟩
    exact ⟨(), hc, follow_of_leads h⟩

theorem checkPath_of_long (hn : '\x00' ∉ path.toList) (hl : maxPath ≤ path.utf8ByteSize) :
    checkPath path = .error .nameTooLong := by
  have he : path.isEmpty = false := by
    rw [String.isEmpty, beq_eq_false_iff_ne]
    exact Nat.ne_of_gt (Nat.lt_of_lt_of_le (by decide) hl)
  have ht : checkText path = .ok () := by
    rw [checkText, if_neg (by simpa using hn), he]
    rfl
  rw [checkPath, ht, if_pos hl]
  rfl

theorem not_mem_path {c : Char} (hc : c ≠ '/') (h : ∀ name ∈ place, c ∉ name.toList) :
    c ∉ place.path.toList := by
  have hi : c ∉ ['/'].intercalate (place.map String.toList) := by
    intro hm
    rcases mem_intercalate_singleton hm with rfl | ⟨cs, hcs, hm⟩
    · exact hc rfl
    · obtain ⟨name, hname, rfl⟩ := List.mem_map.mp hcs
      exact h name hname hm
  have hs : "/".toList = ['/'] := rfl
  rw [Location.path, String.toList_append, String.toList_intercalate, hs, List.singleton_append,
    List.mem_cons]
  exact fun hm => hm.elim hc hi

/-- A short path may lead to a location that is too long for a path. -/
theorem canonical_of_long (h : t.locate .target path = .ok place)
    (hn : ∀ name ∈ place, '\x00' ∉ name.toList) (hl : maxPath ≤ place.path.utf8ByteSize) :
    t.canonical path = .error .nameTooLong := by
  obtain ⟨hp, hleads⟩ := locate_eq_ok_iff.mp h
  have ht : checkText path = .ok () := by
    obtain ⟨⟨⟩, ht, -⟩ := bind_eq_ok_iff.mp hp
    exact ht
  have hc : checkPath place.path = .error .nameTooLong :=
    checkPath_of_long (not_mem_path (by decide) hn) hl
  rcases hleads.follow_location with hf | hf
  · rw [canonical, ht, hf]
    simp only [bind, Except.bind, hc]
  · rw [canonical, ht, hf]
    rfl

theorem find_eq_ok_iff : t.find aim path = .ok (place, node) ↔
    t.locate aim path = .ok place ∧ t.node? place = some node := by
  rw [find, bind_eq_ok_iff]
  constructor
  · rintro ⟨found, hl, h⟩
    unfold present at h
    split at h
    case h_1 node' hn =>
      obtain ⟨rfl, rfl⟩ := by simpa using h
      exact ⟨hl, hn⟩
    case h_2 => cases h
  · rintro ⟨hl, hn⟩
    exact ⟨place, hl, by rw [present, hn]⟩

theorem file?_eq_some_iff {number : Nat} : t.file? path = some (place, number) ↔
    t.locate .target path = .ok place ∧ t.node? place = some (.file number) := by
  unfold file?
  constructor
  · intro h
    split at h
    case h_1 hf =>
      cases h
      exact find_eq_ok_iff.mp hf
    case h_2 => cases h
  · intro h
    rw [find_eq_ok_iff.mpr h]

end Tree

end TypedTag.Files
