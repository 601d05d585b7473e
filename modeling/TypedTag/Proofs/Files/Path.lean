import TypedTag.Files.Path

/-! # Names in paths

Splitting a text at its last mark leaves no mark behind it, and there is only one way to split so.
It tells the last name of a path, and the extension of that name.
-/

namespace TypedTag

namespace Text

variable {α : Type} {p : α → Bool} {a : α} {as before after : List α}

theorem splitLast?_eq_none_iff : splitLast? p as = none ↔ ∀ a ∈ as, p a = false := by
  induction as with
  | nil => simp [splitLast?]
  | cons a as ih =>
    rw [splitLast?, List.forall_mem_cons, ← ih]
    cases splitLast? p as <;> simp

theorem splitLast?_append_cons (ha : p a = true) (h : ∀ b ∈ after, p b = false) :
    splitLast? p (before ++ a :: after) = some (before, after) := by
  induction before with
  | nil => simp [splitLast?, splitLast?_eq_none_iff.mpr h, ha]
  | cons b before ih => simp [splitLast?, ih]

theorem eq_append_cons_of_splitLast? (h : splitLast? p as = some (before, after)) :
    ∃ a, p a = true ∧ as = before ++ a :: after ∧ ∀ b ∈ after, p b = false := by
  induction as generalizing before with
  | nil => cases h
  | cons c as ih =>
    rw [splitLast?] at h
    cases hs : splitLast? p as with
    | some parts =>
      obtain ⟨rfl, rfl⟩ : c :: parts.1 = before ∧ parts.2 = after := by simpa [hs] using h
      obtain ⟨a, ha, rfl, hn⟩ := ih hs
      exact ⟨a, ha, rfl, hn⟩
    | none =>
      obtain ⟨hc, rfl, rfl⟩ : p c = true ∧ [] = before ∧ as = after := by simpa [hs] using h
      exact ⟨c, hc, rfl, splitLast?_eq_none_iff.mp hs⟩

end Text

namespace Files.Path

open Text

variable {cs above name stem : List Char} {path extension : String}

/-- The front part of a path, up to and with its last slash. -/
def IsAbove (above : List Char) : Prop :=
  above = [] ∨ above.getLast? = some '/'

theorem lastName_append (h : IsAbove above) (hn : '/' ∉ name) :
    lastName (above ++ name) = name := by
  have hn' : ∀ c ∈ name, (c = '/' : Bool) = false := fun c hc => by
    simp only [decide_eq_false_iff_not]
    rintro rfl
    exact hn hc
  rcases h with rfl | h
  · simp [lastName, splitLast?_eq_none_iff.mpr hn']
  · obtain ⟨front, rfl⟩ := List.getLast?_eq_some_iff.mp h
    rw [lastName, List.append_assoc, List.singleton_append,
      splitLast?_append_cons (by simp) hn']

theorem exists_above_lastName (cs : List Char) :
    ∃ above, IsAbove above ∧ cs = above ++ lastName cs ∧ '/' ∉ lastName cs := by
  unfold lastName
  cases h : splitLast? (· = '/') cs with
  | none => exact ⟨[], .inl rfl, rfl, fun hc => by simpa using splitLast?_eq_none_iff.mp h _ hc⟩
  | some parts =>
    obtain ⟨a, ha, hs, hn⟩ := eq_append_cons_of_splitLast? h
    obtain rfl : a = '/' := by simpa using ha
    refine ⟨parts.1 ++ ['/'], .inr (by simp), by simpa using hs, fun hc => ?_⟩
    simpa using hn _ hc

/-- The last name of a path has a stem, a dot and the extension, in which there is no other dot. -/
def HasExtension (path extension : String) : Prop :=
  ∃ above stem, path.toList = above ++ stem ++ '.' :: extension.toList ∧ IsAbove above ∧
    stem ≠ [] ∧ '/' ∉ stem ∧ '/' ∉ extension.toList ∧ '.' ∉ extension.toList

theorem extension?_eq_some_iff :
    extension? path = some extension ↔ HasExtension path extension := by
  constructor
  · intro h
    unfold extension? at h
    split at h
    case h_2 => cases h
    case h_1 stem rest hs =>
      split at h
      case isTrue => cases h
      case isFalse hne =>
        obtain ⟨a, ha, hl, hn⟩ := eq_append_cons_of_splitLast? hs
        obtain rfl : a = '.' := by simpa using ha
        obtain rfl := Option.some.inj h
        obtain ⟨above, hb, hp, hslash⟩ := exists_above_lastName path.toList
        rw [hl] at hp hslash
        simp only [List.mem_append, List.mem_cons, not_or] at hslash
        refine ⟨above, stem, ?_, hb, by simpa using hne, hslash.1, ?_, ?_⟩
        · rw [hp, List.append_assoc, String.toList_ofList]
        · rw [String.toList_ofList]
          exact hslash.2.2
        · rw [String.toList_ofList]
          exact fun hc => by simpa using hn _ hc
  · rintro ⟨above, stem, hp, hb, hne, hstem, hext, hdot⟩
    have hn : lastName path.toList = stem ++ '.' :: extension.toList := by
      rw [hp, List.append_assoc]
      exact lastName_append hb (by simp [hstem, hext])
    have hd : ∀ c ∈ extension.toList, (c = '.' : Bool) = false := fun c hc => by
      simp only [decide_eq_false_iff_not]
      rintro rfl
      exact hdot hc
    rw [extension?, hn, splitLast?_append_cons (by simp) hd]
    simp [hne]

end Files.Path

end TypedTag
