import Mathlib.Data.List.Basic
import TypedTag.Proofs.Naming.Symbol

/-! # Where words are split

A sign separates words whatever stands around it, so the words of a name are those of its pieces
between underscores. A row of letters and numerals is one word if all of them join, and what follows
does not. Inside a piece every word but the first starts with a capital. The words are then put
together to the name in Pascal case, where those that start with a digit are set off.
-/

namespace TypedTag.Naming

open Text

variable {c s : Char} {cs w rest : List Char}

theorem words_cons_sign (hs : isAlphanumeric s = false) : words (s :: cs) = words cs := by
  simp [words, hs]

theorem words_cons_of_joins (hc : isAlphanumeric c) (h : joins c cs) :
    words (c :: cs) = attach c (words cs) := by
  simp [words, hc, h]

theorem words_cons_of_not_joins (hc : isAlphanumeric c) (h : joins c cs = false) :
    words (c :: cs) = [c] :: words cs := by
  simp [words, hc, h]

theorem exists_words_cons (hc : isAlphanumeric c) (cs : List Char) :
    ∃ w ws, words (c :: cs) = (c :: w) :: ws :=
  words_eq_cons (List.filter_cons_of_pos hc)

theorem exists_words_of_joins (h : joins c cs) :
    ∃ d t w ws, cs = d :: t ∧ words cs = (d :: w) :: ws := by
  cases cs with
  | nil => simp [joins] at h
  | cons d t =>
    have hd : isAlphanumeric d := by
      simp only [joins, Bool.and_eq_true] at h
      exact h.1
    obtain ⟨w, ws, hw⟩ := exists_words_cons hd t
    exact ⟨d, t, w, ws, rfl, hw⟩

/-- Whether a character joins the next one is not changed by a sign further on, be it the next
but one. -/
theorem joins_append_sign (hs : isAlphanumeric s = false) (hl : isLowercase s = false) :
    joins c (cs ++ s :: rest) = joins c cs := by
  rcases cs with _ | ⟨d, _ | ⟨e, cs⟩⟩
  · simp [joins, hs]
  · simp [joins, startsWord, hl]
  · rfl

theorem words_append_sign (hs : isAlphanumeric s = false) (hl : isLowercase s = false) :
    words (cs ++ s :: rest) = words cs ++ words rest := by
  induction cs with
  | nil => exact words_cons_sign hs
  | cons c cs ih =>
    have hj : joins c (cs ++ s :: rest) = joins c cs := joins_append_sign hs hl
    rw [List.cons_append]
    by_cases hc : isAlphanumeric c
    · cases h : joins c cs with
      | true =>
        obtain ⟨d, t, w, ws, -, hw⟩ := exists_words_of_joins h
        rw [words_cons_of_joins hc (hj.trans h), words_cons_of_joins hc h, ih, hw]
        rfl
      | false =>
        rw [words_cons_of_not_joins hc (hj.trans h), words_cons_of_not_joins hc h, ih,
          List.cons_append]
    · rw [Bool.not_eq_true] at hc
      rw [words_cons_sign hc, words_cons_sign hc, ih]

theorem words_intercalate (pieces : List (List Char)) :
    words (['_'].intercalate pieces) = pieces.flatMap words :=
  apply_intercalate rfl (fun _ _ => words_append_sign (by decide) (by decide)) pieces

theorem words_eq_flatMap_splitOn (cs : List Char) :
    words cs = (cs.splitOn '_').flatMap words := by
  rw [← words_intercalate, List.intercalate_splitOn]

theorem words_append_of_joined (hne : w ≠ []) (hw : ∀ c ∈ w, isAlphanumeric c)
    (inner : ∀ {a c d b}, w = a ++ c :: d :: b → joins c (d :: (b ++ rest)))
    (last : ∀ {a c}, w = a ++ [c] → joins c rest = false) :
    words (w ++ rest) = w :: words rest := by
  induction w with
  | nil => exact absurd rfl hne
  | cons c w ih =>
    rw [List.forall_mem_cons] at hw
    cases w with
    | nil => exact words_cons_of_not_joins hw.1 (last (a := []) rfl)
    | cons d w =>
      have hi : words (d :: w ++ rest) = (d :: w) :: words rest := by
        apply ih (List.cons_ne_nil d w) hw.2
        · intro a e f b h
          exact inner (a := c :: a) (by rw [h, List.cons_append])
        · intro a e h
          exact last (a := c :: a) (by rw [h, List.cons_append])
      have hj : joins c (d :: w ++ rest) := inner (a := []) rfl
      rw [List.cons_append, words_cons_of_joins hw.1 hj, hi]
      rfl

theorem isUppercase_of_mem_tail_words (h : ∀ c ∈ cs, isAlphanumeric c) :
    ∀ w ∈ (words cs).tail, ∃ c t, w = c :: t ∧ isUppercase c := by
  induction cs with
  | nil => simp [words]
  | cons c cs ih =>
    rw [List.forall_mem_cons] at h
    cases hj : joins c cs with
    | true =>
      obtain ⟨d, t, w, ws, -, hw⟩ := exists_words_of_joins hj
      rw [words_cons_of_joins h.1 hj, hw]
      simpa [hw, attach] using ih h.2
    | false =>
      rw [words_cons_of_not_joins h.1 hj, List.tail_cons]
      cases cs with
      | nil => simp [words]
      | cons d t =>
        have hd : isAlphanumeric d := h.2 d List.mem_cons_self
        obtain ⟨w, ws, hw⟩ := exists_words_cons hd t
        -- A letter or numeral that does not join starts a word by being a capital.
        have hu : isUppercase d := by
          simp only [joins, hd, Bool.true_and, Bool.not_eq_false'] at hj
          simp only [startsWord, Bool.and_eq_true] at hj
          exact hj.1
        rw [hw, List.forall_mem_cons]
        refine ⟨⟨d, w, rfl, hu⟩, ?_⟩
        simpa [hw] using ih h.2

section InnerWords

theorem capitalize_cons (h : ∀ d ∈ c :: cs, d.toNat < 0x80) :
    capitalize (c :: cs) = c.toUpper :: cs.map Char.toLower := by
  rw [List.forall_mem_cons] at h
  have hl : cs.flatMap lowerCase = cs.flatMap fun d => [d.toLower] :=
    List.flatMap_congr fun d hd => lowerCase_of_lt (h.2 d hd)
  rw [capitalize, upperCase_of_lt h.1, hl, ← List.map_eq_flatMap]
  rfl

/-- A digit is its own upper case, so an inner word differs from a first one in the underscore. -/
theorem innerWord_eq (w : List Char) :
    innerWord w = if startsWithDigit w then '_' :: capitalize w else capitalize w := by
  cases w with
  | nil => rfl
  | cons c cs =>
    by_cases hc : c.isDigit
    · have hl : c.toNat < 0x80 := toNat_lt_of_isDigit hc
      have hu : upperCase c = [c] := by
        rw [upperCase_of_lt hl, toUpper_of_isDigit hc]
      simp [innerWord, startsWithDigit, capitalize, hc, hu]
    · simp [innerWord, startsWithDigit, hc]

theorem innerWord_of_digit (h : startsWithDigit w) : innerWord w = '_' :: capitalize w := by
  rw [innerWord_eq, if_pos h]

theorem innerWord_of_not_digit (h : ¬ startsWithDigit w) : innerWord w = capitalize w := by
  rw [innerWord_eq, if_neg h]

def joinWords : List (List Char) → List Char
  | [] => []
  | w :: ws => capitalize w ++ ws.flatMap innerWord

theorem inPascalCase_eq_joinWords (name : List Char) :
    inPascalCase name = joinWords (words name) := rfl

theorem inPascalCase_eq_flatMap_capitalize (h : ∀ w ∈ (words cs).tail, ¬ startsWithDigit w) :
    inPascalCase cs = (words cs).flatMap capitalize := by
  rw [inPascalCase_eq_joinWords]
  cases hw : words cs with
  | nil => rfl
  | cons w ws =>
    rw [hw, List.tail_cons] at h
    rw [joinWords, List.flatMap_cons]
    congr 1
    exact List.flatMap_congr fun v hv => innerWord_of_not_digit (h v hv)

end InnerWords

end TypedTag.Naming
