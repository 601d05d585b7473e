import TypedTag.Proofs.Naming.Splitting
import TypedTag.Proofs.Text.CaseMap

/-! # Underscores of a converted name

Whether its underscores are kept or dropped, a name has the same words, so the converted names
differ in underscores only. If they are dropped, what underscores there are stand before the words,
other than the first, that start with a digit, one before each.
-/

namespace TypedTag.Naming

open Text

def withoutUnderscores (cs : List Char) : List Char :=
  cs.filter (· ≠ '_')

theorem withoutUnderscores_append (cs ds : List Char) :
    withoutUnderscores (cs ++ ds) = withoutUnderscores cs ++ withoutUnderscores ds :=
  List.filter_append _ _

theorem withoutUnderscores_of_not_mem {cs : List Char} (h : '_' ∉ cs) :
    withoutUnderscores cs = cs := by
  apply List.filter_eq_self.mpr
  intro c hc
  simpa using fun he : c = '_' => h (he ▸ hc)

theorem withoutUnderscores_intercalate (pieces : List (List Char)) :
    withoutUnderscores (['_'].intercalate pieces) = pieces.flatMap withoutUnderscores := by
  apply apply_intercalate rfl
  intro cs ds
  simp [withoutUnderscores]

section Words

variable {w name : List Char}

theorem underscore_not_mem_of_mem_words (hw : w ∈ words name) : '_' ∉ w := by
  intro h
  exact absurd (mem_and_isAlphanumeric_of_mem_words hw h).2 (by decide)

theorem underscore_not_mem_capitalize (h : '_' ∉ w) : '_' ∉ capitalize w := by
  cases w with
  | nil => simp [capitalize]
  | cons c cs =>
    rw [List.mem_cons, not_or] at h
    rw [capitalize, List.mem_append, not_or, List.mem_flatMap]
    refine ⟨underscore_not_mem_upperCase (Ne.symm h.1), ?_⟩
    rintro ⟨d, hd, hm⟩
    exact underscore_not_mem_lowerCase (fun he : d = '_' => h.2 (he ▸ hd)) hm

theorem withoutUnderscores_innerWord (h : '_' ∉ w) :
    withoutUnderscores (innerWord w) = capitalize w := by
  have hc : withoutUnderscores (capitalize w) = capitalize w :=
    withoutUnderscores_of_not_mem (underscore_not_mem_capitalize h)
  rw [innerWord_eq]
  split
  · simpa [withoutUnderscores] using hc
  · exact hc

theorem withoutUnderscores_inPascalCase (name : List Char) :
    withoutUnderscores (inPascalCase name) = (words name).flatMap capitalize := by
  have hu : ∀ w ∈ words name, '_' ∉ w := fun w hw => underscore_not_mem_of_mem_words hw
  rw [inPascalCase_eq_joinWords]
  cases hw : words name with
  | nil => rfl
  | cons w ws =>
    rw [hw, List.forall_mem_cons] at hu
    rw [joinWords, List.flatMap_cons, withoutUnderscores_append,
      withoutUnderscores_of_not_mem (underscore_not_mem_capitalize hu.1)]
    congr 1
    rw [withoutUnderscores, List.filter_flatMap]
    exact List.flatMap_congr fun v hv => withoutUnderscores_innerWord (hu.2 v hv)

end Words

theorem withoutUnderscores_apply (dropUnderscores : Bool) (name : String) :
    withoutUnderscores (Convention.pascalCase.apply dropUnderscores name).toList =
      (words name.toList).flatMap capitalize := by
  cases dropUnderscores with
  | true =>
    rw [Convention.apply, if_pos rfl, String.toList_ofList, withoutUnderscores_inPascalCase]
  | false =>
    rw [Convention.apply, if_neg Bool.false_ne_true, String.toList_ofList,
      withoutUnderscores_intercalate, List.flatMap_map, words_eq_flatMap_splitOn,
      List.flatMap_assoc]
    exact List.flatMap_congr fun piece _ => withoutUnderscores_inPascalCase piece

section Marks

variable {w : List Char} {ws : List (List Char)} {l r : List Char}

theorem flatMap_innerWord_eq_iff (h : ∀ w ∈ ws, '_' ∉ w) :
    ws.flatMap innerWord = l ++ '_' :: r ↔
      ∃ before w after, ws = before ++ w :: after ∧ startsWithDigit w ∧
        l = before.flatMap innerWord ∧ r = capitalize w ++ after.flatMap innerWord := by
  constructor
  · intro he
    induction ws generalizing l with
    | nil => simp at he
    | cons v ws ih =>
      rw [List.forall_mem_cons] at h
      have hv : '_' ∉ capitalize v := underscore_not_mem_capitalize h.1
      rw [List.flatMap_cons] at he
      by_cases hd : startsWithDigit v
      · rw [innerWord_of_digit hd, List.cons_append] at he
        cases l with
        | nil => exact ⟨[], v, ws, rfl, hd, rfl, (List.cons.inj he).2.symm⟩
        | cons b l =>
          obtain ⟨rfl, ht⟩ := List.cons.inj he
          obtain ⟨m, rfl, hm⟩ := (append_eq_append_cons_iff hv).mp ht
          obtain ⟨before, w, after, rfl, hw, rfl, rfl⟩ := ih h.2 hm
          refine ⟨v :: before, w, after, rfl, hw, ?_, rfl⟩
          rw [List.flatMap_cons, innerWord_of_digit hd, List.cons_append]
      · rw [innerWord_of_not_digit hd] at he
        obtain ⟨m, rfl, hm⟩ := (append_eq_append_cons_iff hv).mp he
        obtain ⟨before, w, after, rfl, hw, rfl, rfl⟩ := ih h.2 hm
        refine ⟨v :: before, w, after, rfl, hw, ?_, rfl⟩
        rw [List.flatMap_cons, innerWord_of_not_digit hd]
  · rintro ⟨before, w, after, rfl, hw, rfl, rfl⟩
    rw [List.flatMap_append, List.flatMap_cons, innerWord_of_digit hw, List.cons_append]

theorem joinWords_eq_iff (h : ∀ w ∈ ws, '_' ∉ w) :
    joinWords ws = l ++ '_' :: r ↔
      ∃ before w after, ws = before ++ w :: after ∧ before ≠ [] ∧ startsWithDigit w ∧
        l = joinWords before ∧ r = capitalize w ++ after.flatMap innerWord := by
  cases ws with
  | nil => simp [joinWords]
  | cons v ws =>
    rw [List.forall_mem_cons] at h
    rw [joinWords, append_eq_append_cons_iff (underscore_not_mem_capitalize h.1)]
    simp only [flatMap_innerWord_eq_iff h.2]
    constructor
    · rintro ⟨m, rfl, before, w, after, rfl, hw, rfl, rfl⟩
      exact ⟨v :: before, w, after, rfl, List.cons_ne_nil v before, hw, rfl, rfl⟩
    · rintro ⟨before, w, after, hx, hne, hw, rfl, rfl⟩
      obtain ⟨u, before, rfl⟩ := List.exists_cons_of_ne_nil hne
      obtain ⟨rfl, rfl⟩ := List.cons.inj hx
      exact ⟨before.flatMap innerWord, rfl, before, w, after, rfl, hw, rfl, rfl⟩

end Marks

/-- Keeping or dropping the underscores of a name makes no difference to anything else, and the
underscores that dropping leaves are those that set off a word with a digit in front. -/
theorem Convention.apply_underscores (name : String) :
    withoutUnderscores (pascalCase.apply true name).toList =
        withoutUnderscores (pascalCase.apply false name).toList ∧
      ∀ l r, (pascalCase.apply true name).toList = l ++ '_' :: r ↔
        ∃ before w after, words name.toList = before ++ w :: after ∧ before ≠ [] ∧
          startsWithDigit w ∧ l = joinWords before ∧
          r = capitalize w ++ after.flatMap innerWord := by
  constructor
  · rw [withoutUnderscores_apply, withoutUnderscores_apply]
  · intro l r
    rw [Convention.apply, if_pos rfl, String.toList_ofList, inPascalCase_eq_joinWords]
    exact joinWords_eq_iff fun w hw => underscore_not_mem_of_mem_words hw

end TypedTag.Naming
