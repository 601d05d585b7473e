import TypedTag.Naming.Convention

/-! # The letters of a converted name

Splitting a name into words loses nothing but the signs between them, and a conversion to Pascal
case writes every letter in one of its forms. So a converted name is made of forms of the letters of
the name, the first one in upper case, and of underscores.
-/

namespace TypedTag.Naming

open Text

/-- Tells that a character is another one in some letter case. -/
def IsForm (d c : Char) : Prop :=
  d = c ∨ d ∈ upperCase c ∨ d ∈ lowerCase c

theorem flatten_attach (c : Char) (ws : List (List Char)) :
    (attach c ws).flatten = c :: ws.flatten := by
  cases ws <;> rfl

theorem flatten_words (cs : List Char) : (words cs).flatten = cs.filter isAlphanumeric := by
  induction cs with
  | nil => rfl
  | cons c cs ih =>
    rw [words]
    by_cases hc : isAlphanumeric c
    · rw [if_pos hc, List.filter_cons_of_pos hc, ← ih]
      split
      · exact flatten_attach c _
      · rfl
    · rw [if_neg hc, List.filter_cons_of_neg hc, ih]

theorem ne_nil_of_mem_attach {c : Char} {ws : List (List Char)} (h : ∀ w ∈ ws, w ≠ []) :
    ∀ w ∈ attach c ws, w ≠ [] := by
  cases ws with
  | nil => simp [attach]
  | cons w ws =>
    rw [List.forall_mem_cons] at h
    exact List.forall_mem_cons.mpr ⟨List.cons_ne_nil _ _, h.2⟩

theorem ne_nil_of_mem_words (cs : List Char) : ∀ w ∈ words cs, w ≠ [] := by
  induction cs with
  | nil => simp [words]
  | cons c cs ih =>
    rw [words]
    split
    · split
      · exact ne_nil_of_mem_attach ih
      · exact List.forall_mem_cons.mpr ⟨List.cons_ne_nil _ _, ih⟩
    · exact ih

theorem words_eq_nil {cs : List Char} (h : cs.filter isAlphanumeric = []) : words cs = [] := by
  rw [← flatten_words, List.flatten_eq_nil_iff] at h
  exact List.eq_nil_iff_forall_not_mem.mpr fun w hw => ne_nil_of_mem_words cs w hw (h w hw)

theorem words_eq_cons {cs rest : List Char} {c : Char}
    (h : cs.filter isAlphanumeric = c :: rest) : ∃ w ws, words cs = (c :: w) :: ws := by
  have hf := flatten_words cs
  cases hw : words cs with
  | nil => rw [hw, h] at hf; simp at hf
  | cons w ws =>
    cases w with
    | nil => exact absurd rfl (ne_nil_of_mem_words cs [] (hw ▸ List.mem_cons_self))
    | cons d w =>
      rw [hw, h, List.flatten_cons, List.cons_append, List.cons.injEq] at hf
      exact ⟨w, ws, by rw [hf.1]⟩

theorem exists_isForm_of_mem_capitalize {d : Char} {w : List Char} (h : d ∈ capitalize w) :
    ∃ c ∈ w, IsForm d c := by
  cases w with
  | nil => simp [capitalize] at h
  | cons c cs =>
    rcases List.mem_append.mp h with h | h
    · exact ⟨c, List.mem_cons_self, .inr (.inl h)⟩
    · obtain ⟨e, he, hd⟩ := List.mem_flatMap.mp h
      exact ⟨e, List.mem_cons_of_mem _ he, .inr (.inr hd)⟩

theorem exists_isForm_of_mem_innerWord {d : Char} {w : List Char} (h : d ∈ innerWord w) :
    d = '_' ∨ ∃ c ∈ w, IsForm d c := by
  cases w with
  | nil => simp [innerWord] at h
  | cons c cs =>
    rw [innerWord] at h
    split at h
    · rcases List.mem_cons.mp h with rfl | h
      · exact .inl rfl
      rcases List.mem_cons.mp h with rfl | h
      · exact .inr ⟨d, List.mem_cons_self, .inl rfl⟩
      · obtain ⟨e, he, hd⟩ := List.mem_flatMap.mp h
        exact .inr ⟨e, List.mem_cons_of_mem _ he, .inr (.inr hd)⟩
    · exact .inr (exists_isForm_of_mem_capitalize h)

theorem mem_and_isAlphanumeric_of_mem_words {c : Char} {w cs : List Char} (hw : w ∈ words cs)
    (hc : c ∈ w) : c ∈ cs ∧ isAlphanumeric c := by
  have hm : c ∈ (words cs).flatten := List.mem_flatten_of_mem hw hc
  rw [flatten_words] at hm
  exact List.mem_filter.mp hm

theorem mem_of_mem_words {c : Char} {w cs : List Char} (hw : w ∈ words cs) (hc : c ∈ w) :
    c ∈ cs :=
  (mem_and_isAlphanumeric_of_mem_words hw hc).1

theorem exists_isForm_of_mem_inPascalCase {d : Char} {cs : List Char} (h : d ∈ inPascalCase cs) :
    d = '_' ∨ ∃ c ∈ cs, IsForm d c := by
  have hm : ∀ w ∈ words cs, (d = '_' ∨ ∃ c ∈ w, IsForm d c) → d = '_' ∨ ∃ c ∈ cs, IsForm d c := by
    rintro w hw (rfl | ⟨c, hc, hd⟩)
    · exact .inl rfl
    · exact .inr ⟨c, mem_of_mem_words hw hc, hd⟩
  unfold inPascalCase at h
  split at h
  case h_1 => simp at h
  case h_2 w ws hw =>
    rw [hw, List.forall_mem_cons] at hm
    rcases List.mem_append.mp h with h | h
    · exact hm.1 (.inr (exists_isForm_of_mem_capitalize h))
    · obtain ⟨v, hv, hd⟩ := List.mem_flatMap.mp h
      exact hm.2 v hv (exists_isForm_of_mem_innerWord hd)

theorem inPascalCase_eq_nil {cs : List Char} (h : cs.filter isAlphanumeric = []) :
    inPascalCase cs = [] := by
  rw [inPascalCase, words_eq_nil h]

theorem inPascalCase_eq_append {cs rest : List Char} {c : Char}
    (h : cs.filter isAlphanumeric = c :: rest) : ∃ t, inPascalCase cs = upperCase c ++ t := by
  obtain ⟨w, ws, hw⟩ := words_eq_cons h
  refine ⟨w.flatMap lowerCase ++ ws.flatMap innerWord, ?_⟩
  rw [inPascalCase, hw, ← List.append_assoc]
  rfl

end TypedTag.Naming
