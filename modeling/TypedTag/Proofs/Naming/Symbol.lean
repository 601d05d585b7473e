import Mathlib.Tactic.SplitIfs
import TypedTag.Naming.Namer
import TypedTag.Proofs.Naming.Words
import TypedTag.Proofs.Text.Ascii
import TypedTag.Proofs.Text.Delimited

/-! # Symbols as identifiers

A symbol stands behind a dot in the emitted code, so it should be an identifier. It has only
letters, digits and underscores if it is made from a name that a document can have. It starts with a
digit only if the underscores before that digit are dropped from the name.
-/

namespace TypedTag.Naming

open Document Text

/-- Tells whether a text is a name as documents have them. -/
def isName (s : String) : Bool :=
  match s.toList with
  | [] => false
  | c :: cs => isNameStart c && cs.all isNamePart

def startsWithDigit (cs : List Char) : Bool :=
  cs.head?.any Char.isDigit

def isIdentifier (s : String) : Bool :=
  !s.isEmpty && s.toList.all (fun c => c.isAlphanum || c = '_') && !startsWithDigit s.toList

/-- Tells whether a name loses the underscores before a digit and has nothing else there. -/
def Namer.uncoversDigit (namer : Namer) (name : String) : Bool :=
  namer.convention = .pascalCase && namer.dropUnderscores &&
    (name.toList.find? (· ≠ '_')).any Char.isDigit

section Splitting

variable {α : Type} {a b : α}

theorem mem_intercalate_of_mem {ls : List (List α)} {l : List α} (hl : l ∈ ls) (h : b ∈ l) :
    b ∈ [a].intercalate ls := by
  induction ls with
  | nil => simp at hl
  | cons m ls ih =>
    by_cases hn : ls = []
    · subst hn
      obtain rfl : l = m := by simpa using hl
      simpa using h
    · rw [List.intercalate_cons_of_ne_nil hn, List.append_assoc, List.mem_append]
      rcases List.mem_cons.mp hl with rfl | hl
      · exact .inl h
      · exact .inr (List.mem_append_right _ (ih hl))

theorem mem_of_mem_splitOn [BEq α] [LawfulBEq α] {xs l : List α} (hl : l ∈ xs.splitOn a)
    (h : b ∈ l) : b ∈ xs := by
  have hx : [a].intercalate (xs.splitOn a) = xs := List.intercalate_splitOn a
  exact hx ▸ mem_intercalate_of_mem hl h

theorem notMem_of_mem_splitOn [BEq α] [LawfulBEq α] {xs l : List α} (hl : l ∈ xs.splitOn a) :
    a ∉ l := by
  induction xs generalizing l with
  | nil =>
    rw [List.splitOn_nil, List.mem_singleton] at hl
    simp [hl]
  | cons x xs ih =>
    rw [List.splitOn_cons_eq_if_modifyHead] at hl
    split at hl
    · rcases List.mem_cons.mp hl with rfl | hl
      · exact List.not_mem_nil
      · exact ih hl
    · next hx =>
      obtain ⟨piece, pieces, hp⟩ := List.exists_cons_of_ne_nil (List.splitOn_ne_nil a xs)
      rw [hp, List.modifyHead_cons, List.mem_cons] at hl
      rcases hl with rfl | hl
      · rw [List.mem_cons, not_or]
        exact ⟨fun he => hx (by simp [he]), ih (hp ▸ List.mem_cons_self)⟩
      · exact ih (hp ▸ List.mem_cons_of_mem piece hl)

theorem intercalate_cons_eq_append (l : List α) (ls : List (List α)) :
    ∃ t, [a].intercalate (l :: ls) = l ++ t := by
  by_cases hn : ls = []
  · exact ⟨[], by simp [hn]⟩
  · exact ⟨_, by rw [List.intercalate_cons_of_ne_nil hn, List.append_assoc]⟩

end Splitting

section Characters

variable {d : Char} {cs : List Char}

theorem isNamePart_of_isForm {c : Char} (hc : isNamePart c) (h : IsForm d c) : isNamePart d := by
  have hl := toNat_lt_of_isNamePart hc
  rw [IsForm, upperCase_of_lt hl, lowerCase_of_lt hl, List.mem_singleton, List.mem_singleton] at h
  rcases h with rfl | rfl | rfl
  · exact hc
  · exact isNamePart_toUpper hc
  · exact isNamePart_toLower hc

theorem isNamePart_of_mem_inPascalCase (h : ∀ c ∈ cs, isNamePart c) (hd : d ∈ inPascalCase cs) :
    isNamePart d := by
  obtain rfl | ⟨c, hc, hf⟩ := exists_isForm_of_mem_inPascalCase hd
  · decide
  · exact isNamePart_of_isForm (h c hc) hf

theorem isNamePart_of_mem_apply (convention : Convention) (dropUnderscores : Bool) {name : String}
    (h : ∀ c ∈ name.toList, isNamePart c)
    (hd : d ∈ (convention.apply dropUnderscores name).toList) : isNamePart d := by
  cases convention with
  | keep => exact h d hd
  | pascalCase =>
    rw [Convention.apply] at hd
    split_ifs at hd
    · rw [String.toList_ofList] at hd
      exact isNamePart_of_mem_inPascalCase h hd
    · rw [String.toList_ofList] at hd
      obtain rfl | ⟨_, hl, hd⟩ := mem_intercalate_singleton hd
      · decide
      obtain ⟨piece, hp, rfl⟩ := List.mem_map.mp hl
      exact isNamePart_of_mem_inPascalCase (fun c hc => h c (mem_of_mem_splitOn hp hc)) hd

end Characters

section Start

variable {c : Char} {cs suffix : List Char}

theorem head?_inPascalCase (h : ∀ c ∈ cs, isNamePart c) :
    (inPascalCase cs).head? = (cs.find? (· ≠ '_')).map Char.toUpper := by
  have hf : cs.filter (fun c => decide (c ≠ '_')) = cs.filter isAlphanumeric :=
    List.filter_congr fun c hc => (isAlphanumeric_of_isNamePart (h c hc)).symm
  rw [← List.head?_filter, hf]
  cases hn : cs.filter isAlphanumeric with
  | nil => rw [inPascalCase_eq_nil hn]; rfl
  | cons c rest =>
    have hc : c ∈ cs := (List.mem_filter.mp (hn ▸ List.mem_cons_self)).1
    obtain ⟨t, ht⟩ := inPascalCase_eq_append hn
    rw [ht, upperCase_of_lt (toNat_lt_of_isNamePart (h c hc))]
    rfl

theorem startsWithDigit_inPascalCase (h : ∀ c ∈ cs, isNamePart c)
    (hs : startsWithDigit suffix = false) :
    startsWithDigit (inPascalCase cs ++ suffix) = (cs.find? (· ≠ '_')).any Char.isDigit := by
  have hh := head?_inPascalCase h
  rw [startsWithDigit, List.head?_append, hh]
  cases hn : cs.find? (· ≠ '_') with
  | none => exact hs
  | some c => exact isDigit_toUpper (toNat_lt_of_isNamePart (h c (List.mem_of_find?_eq_some hn)))

theorem startsWithDigit_intercalate (hc : isNameStart c) :
    startsWithDigit
      (['_'].intercalate (((c :: cs).splitOn '_').map inPascalCase) ++ suffix) = false := by
  rw [List.splitOn_cons_eq_if_modifyHead]
  by_cases hu : c = '_'
  · -- The piece before the underscore is empty, so the name goes on starting with it.
    have hn : (cs.splitOn '_').map inPascalCase ≠ [] := by simp [List.splitOn_ne_nil]
    rw [if_pos (by simpa using hu), List.map_cons, List.intercalate_cons_of_ne_nil hn]
    rfl
  · obtain ⟨piece, pieces, hp⟩ := List.exists_cons_of_ne_nil (List.splitOn_ne_nil '_' cs)
    have hl : c.toNat < 0x80 := toNat_lt_of_isNamePart (by simp [isNamePart, hc])
    have ha : isAlphanumeric c := by
      rw [isAlphanumeric_of_isNamePart (by simp [isNamePart, hc])]
      simpa using hu
    obtain ⟨t, ht⟩ := inPascalCase_eq_append (List.filter_cons_of_pos ha (l := piece))
    obtain ⟨t', ht'⟩ := intercalate_cons_eq_append (a := '_') (inPascalCase (c :: piece))
      (pieces.map inPascalCase)
    rw [if_neg (by simpa using hu), hp, List.modifyHead_cons, List.map_cons, ht', ht,
      upperCase_of_lt hl]
    exact (isDigit_toUpper hl).trans (isDigit_eq_false_of_isNameStart hc)

end Start

theorem startsWithDigit_suffix (kind : DefinitionKind) :
    startsWithDigit kind.suffix.toList = false := by
  cases kind <;> decide

theorem isNamePart_of_mem_suffix (kind : DefinitionKind) :
    ∀ c ∈ kind.suffix.toList, isNamePart c := by
  have h : kind.suffix.toList.all isNamePart := by cases kind <;> decide
  exact List.all_eq_true.mp h

variable {name : String}

theorem exists_of_isName (h : isName name) :
    ∃ c cs, name.toList = c :: cs ∧ isNameStart c ∧ ∀ d ∈ cs, isNamePart d := by
  unfold isName at h
  split at h
  case h_1 => simp at h
  case h_2 c cs hn => exact ⟨c, cs, hn, by simpa using h⟩

theorem isNamePart_of_isName (h : isName name) : ∀ c ∈ name.toList, isNamePart c := by
  obtain ⟨c, cs, hn, hc, hs⟩ := exists_of_isName h
  rw [hn, List.forall_mem_cons]
  exact ⟨by simp [isNamePart, hc], hs⟩

namespace Namer

variable (namer : Namer) (kind : DefinitionKind)

theorem startsWithDigit_symbol (h : isName name) :
    startsWithDigit (namer.symbol kind name).toList = namer.uncoversDigit name := by
  obtain ⟨c, cs, hn, hc, hs⟩ := exists_of_isName h
  have hsuffix := startsWithDigit_suffix kind
  obtain ⟨convention, dropUnderscores⟩ := namer
  rw [symbol, String.toList_append]
  cases convention with
  | keep =>
    rw [Convention.apply, hn]
    exact isDigit_eq_false_of_isNameStart hc
  | pascalCase =>
    cases dropUnderscores with
    | true =>
      rw [Convention.apply, if_pos rfl, String.toList_ofList,
        startsWithDigit_inPascalCase (isNamePart_of_isName h) hsuffix]
      rfl
    | false =>
      rw [Convention.apply, if_neg Bool.false_ne_true, String.toList_ofList, hn,
        startsWithDigit_intercalate hc]
      rfl

theorem head?_symbol_of_uncoversDigit (h : isName name) (hd : namer.uncoversDigit name) :
    (namer.symbol kind name).toList.head? = name.toList.find? (· ≠ '_') := by
  obtain ⟨convention, dropUnderscores⟩ := namer
  obtain ⟨⟨rfl, rfl⟩, hd⟩ : (convention = .pascalCase ∧ dropUnderscores = true) ∧
      (name.toList.find? (· ≠ '_')).any Char.isDigit := by
    simpa only [uncoversDigit, Bool.and_eq_true, decide_eq_true_eq] using hd
  obtain ⟨c, hc, hdigit⟩ := (Option.any_eq_true _ _).mp hd
  have hh := head?_inPascalCase (isNamePart_of_isName h)
  rw [symbol, String.toList_append, Convention.apply, if_pos rfl, String.toList_ofList,
    List.head?_append, hh, hc, Option.map_some, toUpper_of_isDigit hdigit]
  rfl

theorem isNamePart_of_mem_symbol (h : isName name) :
    ∀ c ∈ (namer.symbol kind name).toList, isNamePart c := by
  rw [symbol, String.toList_append, List.forall_mem_append]
  refine ⟨fun c hc => ?_, isNamePart_of_mem_suffix kind⟩
  exact isNamePart_of_mem_apply _ _ (isNamePart_of_isName h) hc

theorem symbol_ne_empty (name : String) : namer.symbol kind name ≠ "" := by
  intro h
  have hl := congrArg String.toList h
  rw [symbol, String.toList_append, String.toList_empty, List.append_eq_nil_iff] at hl
  cases kind <;> exact absurd hl.2 (by decide)

/-- A symbol made from a name has only letters, digits and underscores, at least one of them. It is
an identifier unless the name loses all underscores before a digit, and then it starts with that
digit. -/
theorem isIdentifier_symbol_iff (h : isName name) :
    namer.symbol kind name ≠ "" ∧
      (∀ c ∈ (namer.symbol kind name).toList, c.isAlphanum ∨ c = '_') ∧
      (isIdentifier (namer.symbol kind name) ↔ ¬ namer.uncoversDigit name) ∧
      (namer.uncoversDigit name → ∃ digit, digit.isDigit ∧
        name.toList.find? (· ≠ '_') = some digit ∧
        (namer.symbol kind name).toList.head? = some digit) := by
  have hne := namer.symbol_ne_empty kind name
  have hp : ∀ c ∈ (namer.symbol kind name).toList, c.isAlphanum ∨ c = '_' := by
    exact fun c hc => isNamePart_iff.mp (namer.isNamePart_of_mem_symbol kind h c hc)
  refine ⟨hne, hp, ?_, fun hu => ?_⟩
  · have hall : (namer.symbol kind name).toList.all (fun c => c.isAlphanum || c = '_') := by
      simpa using hp
    rw [isIdentifier, namer.startsWithDigit_symbol kind h, hall]
    simp [hne]
  · obtain ⟨digit, hf, hd⟩ := (Option.any_eq_true _ _).mp (Bool.and_eq_true_iff.mp hu).2
    exact ⟨digit, hd, hf, (namer.head?_symbol_of_uncoversDigit kind h hu).trans hf⟩

/-- An underscore is put before a digit only to tell a word from the one before it. No word stands
before the first one, so the symbol made from this name starts with its digit. -/
theorem symbol_starts_with_uncovered_digit :
    isName "_2fa" ∧
      (({ dropUnderscores := true } : Namer).symbol .query "_2fa").toList.head? = some '2' ∧
      ¬ isIdentifier (({ dropUnderscores := true } : Namer).symbol .query "_2fa") := by
  decide

theorem isIdentifier_symbol_of_underscored_digit :
    isName "_2fa" ∧ isIdentifier (({ } : Namer).symbol .query "_2fa") ∧
      ¬ isIdentifier (({ dropUnderscores := true } : Namer).symbol .query "_2fa") ∧
      ∃ digit, "_2fa".toList.find? (· ≠ '_') = some digit ∧
        (({ dropUnderscores := true } : Namer).symbol .query "_2fa").toList.head? = some digit := by
  have hn : isName "_2fa" := by decide
  obtain ⟨-, -, hi, -⟩ := ({ } : Namer).isIdentifier_symbol_iff .query hn
  obtain ⟨-, -, hi', hd⟩ :=
    ({ dropUnderscores := true } : Namer).isIdentifier_symbol_iff .query hn
  obtain ⟨digit, -, hf, hs⟩ := hd (by decide)
  exact ⟨hn, hi.mpr (by decide), fun h => absurd (by decide) (hi'.mp h), digit, hf, hs⟩

end Namer

end TypedTag.Naming
