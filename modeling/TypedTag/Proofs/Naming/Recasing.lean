import TypedTag.Proofs.Naming.Splitting

/-! # Names converted character by character

If the underscores of a name are kept, Pascal case changes nothing but the case of each letter. The
case depends on the letter and its two neighbours only: a letter that starts a word is a capital,
any other one a small letter.
-/

namespace TypedTag.Naming

open Document Text

def opensWord (prev : Option Char) (c : Char) (next : Option Char) : Bool :=
  prev.all fun p => p = '_' ||
    c.isUpper && (p.isLower || p.isDigit || p.isUpper && next.any Char.isLower)

/-- Changes the case of a name in one pass, which remembers the character before. -/
def recase (prev : Option Char) : List Char → List Char
  | [] => []
  | c :: cs =>
    (if opensWord prev c cs.head? then c.toUpper else c.toLower) :: recase (some c) cs

/-- Tells whether a word starts at a position of a name: at the front, behind an underscore, at a
capital behind a small letter or digit, and at the last capital of a run before a small letter. -/
def startsWordAt (cs : List Char) (i : Nat) : Bool :=
  i = 0 || cs[i - 1]? = some '_' ||
    cs[i]?.any Char.isUpper &&
      (cs[i - 1]?.any (fun p => p.isLower || p.isDigit) ||
        cs[i - 1]?.any Char.isUpper && cs[i + 1]?.any Char.isLower)

section Pass

variable {prev : Option Char} {c : Char} {cs ds : List Char}

theorem length_recase : (recase prev cs).length = cs.length := by
  induction cs generalizing prev with
  | nil => rfl
  | cons c cs ih => rw [recase, List.length_cons, List.length_cons, ih]

theorem getElem?_recase (i : Nat) :
    (recase prev cs)[i]? = cs[i]?.map fun c =>
      if opensWord (if i = 0 then prev else cs[i - 1]?) c cs[i + 1]? then c.toUpper
      else c.toLower := by
  induction cs generalizing prev i with
  | nil => rfl
  | cons c cs ih =>
    cases i with
    | zero => simp [recase, List.head?_eq_getElem?]
    | succ i =>
      have hp : (if i = 0 then some c else cs[i - 1]?) = (c :: cs)[i]? := by
        cases i <;> rfl
      rw [recase, List.getElem?_cons_succ, ih, hp]
      rfl

theorem opensWord_eq_startsWordAt {i : Nat} (hc : cs[i]? = some c) :
    opensWord (if i = 0 then none else cs[i - 1]?) c cs[i + 1]? = startsWordAt cs i := by
  cases i with
  | zero => rfl
  | succ i =>
    have hi : i < cs.length := by
      have hl := (List.getElem?_eq_some_iff.mp hc).1
      omega
    simp [opensWord, startsWordAt, hi, hc]

theorem recase_append_underscore :
    recase prev (cs ++ '_' :: ds) = recase prev cs ++ '_' :: recase none ds := by
  induction cs generalizing prev with
  | nil =>
    have hd : recase (some '_') ds = recase none ds := by cases ds <;> rfl
    have hu : (if opensWord prev '_' ds.head? then '_'.toUpper else '_'.toLower) = '_' :=
      ite_self _
    simp only [List.nil_append, recase, hd, hu]
  | cons c cs ih =>
    have hn : opensWord prev c (cs ++ '_' :: ds).head? = opensWord prev c cs.head? := by
      cases cs with
      | nil => simp [opensWord]
      | cons d cs => rfl
    rw [List.cons_append, recase, hn, ih, recase, List.cons_append]

end Pass

section Piece

variable {c d : Char} {cs : List Char}

theorem startsWord_eq_opensWord {next : Option Char} (hc : isNamePart c ∧ c ≠ '_')
    (hd : isNamePart d) (hn : ∀ e ∈ next, isNamePart e) :
    startsWord c d next = opensWord (some c) d next := by
  have hl : next.any isLowercase = next.any Char.isLower := by
    cases next with
    | none => rfl
    | some e => exact isLowercase_of_lt (toNat_lt_of_isNamePart (hn e rfl))
  have hlc := toNat_lt_of_isNamePart hc.1
  rw [startsWord, isUppercase_of_lt (toNat_lt_of_isNamePart hd), isLowercase_of_lt hlc,
    isNumeric_of_lt hlc, isUppercase_of_lt hlc, hl, opensWord, Option.all_some,
    decide_eq_false hc.2, Bool.false_or]

theorem joins_eq_not_opensWord (h : ∀ e ∈ c :: d :: cs, isNamePart e ∧ e ≠ '_') :
    joins c (d :: cs) = !opensWord (some c) d cs.head? := by
  have hd := h d (by simp)
  have hn : ∀ e ∈ cs.head?, isNamePart e := by
    intro e he
    have hm : e ∈ cs := List.mem_of_mem_head? he
    exact (h e (by simp [hm])).1
  rw [joins, startsWord_eq_opensWord (h c List.mem_cons_self) hd.1 hn,
    isAlphanumeric_of_ne_underscore hd.1 hd.2, Bool.true_and]

theorem flatMap_capitalize_words (h : ∀ d ∈ c :: cs, isNamePart d ∧ d ≠ '_') :
    (words (c :: cs)).flatMap capitalize = c.toUpper :: recase (some c) cs := by
  induction cs generalizing c with
  | nil =>
    have hc := h c List.mem_cons_self
    rw [words_cons_of_not_joins (isAlphanumeric_of_ne_underscore hc.1 hc.2) rfl]
    simp [words, capitalize, recase, upperCase_of_lt (toNat_lt_of_isNamePart hc.1)]
  | cons d cs ih =>
    have hj := joins_eq_not_opensWord h
    rw [List.forall_mem_cons] at h
    obtain ⟨hc, ht⟩ := h
    have hd := ht d List.mem_cons_self
    have hac := isAlphanumeric_of_ne_underscore hc.1 hc.2
    have had := isAlphanumeric_of_ne_underscore hd.1 hd.2
    have hlc := toNat_lt_of_isNamePart hc.1
    have hld := toNat_lt_of_isNamePart hd.1
    obtain ⟨w, ws, hw⟩ := exists_words_cons had cs
    -- What stands behind the first letter of a word does not depend on what is before it.
    have hi : w.flatMap lowerCase ++ ws.flatMap capitalize = recase (some d) cs := by
      have hwd := ih ht
      rw [hw, List.flatMap_cons, capitalize, upperCase_of_lt hld, List.append_assoc,
        List.singleton_append, List.cons.injEq] at hwd
      exact hwd.2
    rw [recase]
    cases ho : opensWord (some c) d cs.head? with
    | true =>
      rw [words_cons_of_not_joins hac (by rw [hj, ho]; rfl), hw]
      simp [capitalize, upperCase_of_lt hlc, upperCase_of_lt hld, hi]
    | false =>
      rw [words_cons_of_joins hac (by rw [hj, ho]; rfl), hw]
      simp [attach, capitalize, upperCase_of_lt hlc, lowerCase_of_lt hld, ← hi]

theorem not_startsWithDigit_of_mem_tail_words (h : ∀ d ∈ cs, isNamePart d ∧ d ≠ '_') :
    ∀ w ∈ (words cs).tail, ¬ startsWithDigit w := by
  intro w hw hd
  obtain ⟨c, t, rfl, hu⟩ := isUppercase_of_mem_tail_words
    (fun d hd => isAlphanumeric_of_ne_underscore (h d hd).1 (h d hd).2) w hw
  rw [startsWithDigit, List.head?_cons, Option.any_some] at hd
  rw [isUppercase_eq_false_of_isDigit hd] at hu
  exact Bool.false_ne_true hu

theorem inPascalCase_eq_recase (h : ∀ d ∈ cs, isNamePart d ∧ d ≠ '_') :
    inPascalCase cs = recase none cs := by
  rw [inPascalCase_eq_flatMap_capitalize (not_startsWithDigit_of_mem_tail_words h)]
  cases cs with
  | nil => rfl
  | cons c cs => exact flatMap_capitalize_words h

end Piece

theorem intercalate_inPascalCase {pieces : List (List Char)}
    (h : ∀ piece ∈ pieces, ∀ d ∈ piece, isNamePart d ∧ d ≠ '_') :
    ['_'].intercalate (pieces.map inPascalCase) = recase none (['_'].intercalate pieces) := by
  induction pieces with
  | nil => rfl
  | cons piece pieces ih =>
    rw [List.forall_mem_cons] at h
    by_cases hn : pieces = []
    · subst hn
      simpa using inPascalCase_eq_recase h.1
    · have hm : pieces.map inPascalCase ≠ [] := by simpa using hn
      rw [List.map_cons, List.intercalate_cons_of_ne_nil hm, List.intercalate_cons_of_ne_nil hn,
        ih h.2, inPascalCase_eq_recase h.1, List.append_assoc, List.append_assoc,
        List.singleton_append, List.singleton_append, recase_append_underscore]

variable {name : String}

theorem isNamePart_of_mem_piece (h : ∀ c ∈ name.toList, isNamePart c) :
    ∀ piece ∈ name.toList.splitOn '_', ∀ d ∈ piece, isNamePart d ∧ d ≠ '_' := by
  intro piece hp d hd
  refine ⟨h d (mem_of_mem_splitOn hp hd), ?_⟩
  rintro rfl
  exact notMem_of_mem_splitOn hp hd

theorem toList_apply_eq_recase (h : ∀ c ∈ name.toList, isNamePart c) :
    (Convention.pascalCase.apply false name).toList = recase none name.toList := by
  rw [Convention.apply, if_neg Bool.false_ne_true, String.toList_ofList,
    intercalate_inPascalCase (isNamePart_of_mem_piece h), List.intercalate_splitOn]

/-- If its underscores are kept, a name stays as long as it is and each of its characters stays the
same but for the case, which the neighbours decide. No inner word of a piece starts with a digit, so
none gets an underscore. -/
theorem Convention.pascalCase_recases (h : isName name) :
    (pascalCase.apply false name).toList.length = name.toList.length ∧
      (∀ i c, name.toList[i]? = some c →
        (pascalCase.apply false name).toList[i]? = some
          (if c = '_' then '_'
          else if startsWordAt name.toList i then c.toUpper
          else c.toLower)) ∧
      ∀ piece ∈ name.toList.splitOn '_', ∀ w ∈ (words piece).tail, ¬ startsWithDigit w := by
  have hp : ∀ c ∈ name.toList, isNamePart c := isNamePart_of_isName h
  refine ⟨?_, ?_, ?_⟩
  · rw [toList_apply_eq_recase hp, length_recase]
  · intro i c hc
    rw [toList_apply_eq_recase hp, getElem?_recase, hc, Option.map_some,
      opensWord_eq_startsWordAt hc]
    by_cases hu : c = '_'
    · subst hu
      rw [if_pos rfl]
      exact congrArg some (ite_self _)
    · rw [if_neg hu]
  · intro piece hm
    exact not_startsWithDigit_of_mem_tail_words (isNamePart_of_mem_piece hp piece hm)

/-- The last capital of a run starts a word, the one before it does not. -/
theorem Convention.pascalCase_recases_acronym :
    isName "get_HTMLPage" ∧
      (pascalCase.apply false "get_HTMLPage").toList[7]? = some 'l' ∧
      (pascalCase.apply false "get_HTMLPage").toList[8]? = some 'P' := by
  have hn : isName "get_HTMLPage" := by decide
  have hc := (pascalCase_recases hn).2.1
  refine ⟨hn, ?_, ?_⟩
  · rw [hc 7 'L' (by decide)]
    decide
  · rw [hc 8 'P' (by decide)]
    decide

end TypedTag.Naming
