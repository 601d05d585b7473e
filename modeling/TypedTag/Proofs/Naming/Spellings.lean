import Mathlib.Data.List.Chain
import Mathlib.Data.Prod.Basic
import TypedTag.Proofs.Naming.Splitting

/-! # Spellings of words

Words of at least two letters are written with underscores or with humps, and some of them, no two
neighbours, may be all capitals between humps. In each of these spellings the words are found again,
so a name gets the same symbol however it is spelled.
-/

namespace TypedTag.Naming

open Text

inductive LetterCase
  | small
  | capitalized
  | capitals
  deriving DecidableEq, Repr

def LetterCase.write : LetterCase → List Char → List Char
  | .small, w => w.map Char.toLower
  | .capitalized, [] => []
  | .capitalized, c :: cs => c.toUpper :: cs.map Char.toLower
  | .capitals, w => w.map Char.toUpper

/-- A word in which small letters, one capital and all capitals are three different spellings. -/
def IsWord (w : List Char) : Prop :=
  2 ≤ w.length ∧ w.all Char.isAlpha

instance : DecidablePred IsWord := fun w =>
  inferInstanceAs (Decidable (2 ≤ w.length ∧ w.all Char.isAlpha))

theorem IsWord.isAlpha {w : List Char} (h : IsWord w) : ∀ c ∈ w, c.isAlpha :=
  List.all_eq_true.mp h.2

theorem IsWord.exists_cons_cons {w : List Char} (h : IsWord w) : ∃ c d cs, w = c :: d :: cs := by
  rcases w with _ | ⟨c, _ | ⟨d, cs⟩⟩
  · exact absurd h.1 (by decide)
  · exact absurd h.1 (by simp)
  · exact ⟨c, d, cs, rfl⟩

def spelled (part : LetterCase × List Char) : List Char :=
  part.1.write part.2

/-- Tells that a list of words, each written in some letter case, is put together to a name. -/
inductive Spelling : List (List Char) → List (List Char) → List Char → Prop
  | snakeCase (ws : List (List Char)) :
      Spelling ws (ws.map LetterCase.small.write)
        (['_'].intercalate (ws.map LetterCase.small.write))
  | screamingSnakeCase (ws : List (List Char)) :
      Spelling ws (ws.map LetterCase.capitals.write)
        (['_'].intercalate (ws.map LetterCase.capitals.write))
  | camelCase (w : List Char) (ws : List (List Char)) :
      Spelling (w :: ws) (LetterCase.small.write w :: ws.map LetterCase.capitalized.write)
        (LetterCase.small.write w ++ ws.flatMap LetterCase.capitalized.write)
  | pascalCase (ws : List (List Char)) :
      Spelling ws (ws.map LetterCase.capitalized.write)
        (ws.flatMap LetterCase.capitalized.write)
  | acronyms (parts : List (LetterCase × List Char))
      (hsmall : ∀ p ∈ parts.tail, p.1 ≠ .small)
      (hcapitals : parts.IsChain fun p q => ¬ (p.1 = .capitals ∧ q.1 = .capitals)) :
      Spelling (parts.map Prod.snd) (parts.map spelled) (parts.flatMap spelled)

section Letters

variable {c d e : Char} {cs : List Char}

theorem joins_small (hd : d.isLower) : joins c (d :: cs) := by
  simp [joins, startsWord, isAlphanumeric_of_isAlpha (isAlpha_of_isLower hd),
    isUppercase_eq_false_of_isLower hd]

theorem joins_capital (hc : c.isUpper) (hd : d.isUpper) (hn : ∀ e ∈ cs.head?, e.isUpper) :
    joins c (d :: cs) := by
  have hl : cs.head?.any isLowercase = false := by
    cases h : cs.head? with
    | none => rfl
    | some e => exact isLowercase_eq_false_of_isUpper (hn e h)
  simp [joins, startsWord, isAlphanumeric_of_isAlpha (isAlpha_of_isUpper hd),
    isLowercase_eq_false_of_isUpper hc, isNumeric_eq_false_of_isUpper hc, hl]

theorem not_joins_of_isLower (hc : c.isLower) (hd : d.isUpper) : joins c (d :: cs) = false := by
  simp [joins, startsWord, isUppercase_of_isUpper hd, isLowercase_of_isLower hc]

theorem not_joins_of_isUpper (hc : c.isUpper) (hd : d.isUpper) (he : e.isLower) :
    joins c (d :: e :: cs) = false := by
  simp [joins, startsWord, isUppercase_of_isUpper hd, isUppercase_of_isUpper hc,
    isLowercase_of_isLower he]

end Letters

section Writing

variable {k : LetterCase} {w : List Char}

theorem isLower_of_mem_map_toLower (h : ∀ c ∈ w, c.isAlpha) :
    ∀ d ∈ w.map Char.toLower, d.isLower := by
  intro d hd
  obtain ⟨c, hc, rfl⟩ := List.mem_map.mp hd
  exact isLower_toLower (h c hc)

theorem isUpper_of_mem_map_toUpper (h : ∀ c ∈ w, c.isAlpha) :
    ∀ d ∈ w.map Char.toUpper, d.isUpper := by
  intro d hd
  obtain ⟨c, hc, rfl⟩ := List.mem_map.mp hd
  exact isUpper_toUpper (h c hc)

theorem isAlpha_of_mem_write (h : ∀ c ∈ w, c.isAlpha) : ∀ d ∈ k.write w, d.isAlpha := by
  intro d hd
  cases k with
  | small => exact isAlpha_of_isLower (isLower_of_mem_map_toLower h d hd)
  | capitals => exact isAlpha_of_isUpper (isUpper_of_mem_map_toUpper h d hd)
  | capitalized =>
    cases w with
    | nil => simp [LetterCase.write] at hd
    | cons c cs =>
      rw [List.forall_mem_cons] at h
      rcases List.mem_cons.mp hd with rfl | hd
      · exact isAlpha_of_isUpper (isUpper_toUpper h.1)
      · exact isAlpha_of_isLower (isLower_of_mem_map_toLower h.2 d hd)

theorem map_toLower_form (h : ∀ c ∈ w, c.isAlpha) :
    (w.map Char.toLower).map Char.toLower = w.map Char.toLower ∧
      (w.map Char.toUpper).map Char.toLower = w.map Char.toLower := by
  have hw : ∀ c ∈ w, c.toLower.toLower = c.toLower ∧ c.toUpper.toLower = c.toLower :=
    fun c hc => toLower_of_form (toNat_lt_of_isAlpha (h c hc))
  rw [List.map_map, List.map_map]
  exact ⟨List.map_congr_left fun c hc => (hw c hc).1, List.map_congr_left fun c hc => (hw c hc).2⟩

theorem map_toLower_write (h : ∀ c ∈ w, c.isAlpha) :
    (k.write w).map Char.toLower = w.map Char.toLower := by
  cases k with
  | small => exact (map_toLower_form h).1
  | capitals => exact (map_toLower_form h).2
  | capitalized =>
    cases w with
    | nil => rfl
    | cons c cs =>
      rw [List.forall_mem_cons] at h
      rw [LetterCase.write, List.map_cons, List.map_cons, (map_toLower_form h.2).1,
        (toLower_of_form (toNat_lt_of_isAlpha h.1)).2]

theorem capitalize_write (h : ∀ c ∈ w, c.isAlpha) :
    capitalize (k.write w) = LetterCase.capitalized.write w := by
  have hl : ∀ d ∈ k.write w, d.toNat < 0x80 := fun d hd =>
    toNat_lt_of_isAlpha (isAlpha_of_mem_write h d hd)
  cases w with
  | nil => cases k <;> rfl
  | cons c cs =>
    rw [List.forall_mem_cons] at h
    obtain ⟨hu, hul⟩ := toUpper_of_form (toNat_lt_of_isAlpha h.1)
    obtain ⟨hl', hlu⟩ := map_toLower_form h.2
    cases k with
    | small => exact (capitalize_cons hl).trans (congrArg₂ List.cons hul hl')
    | capitalized => exact (capitalize_cons hl).trans (congrArg₂ List.cons hu hl')
    | capitals => exact (capitalize_cons hl).trans (congrArg₂ List.cons hu hlu)

theorem not_startsWithDigit_write (h : ∀ c ∈ w, c.isAlpha) : ¬ startsWithDigit (k.write w) := by
  have ha : ∀ d ∈ k.write w, d.isAlpha := isAlpha_of_mem_write h
  cases hw : k.write w with
  | nil => simp [startsWithDigit]
  | cons d ds =>
    have hd : d.isAlpha := ha d (hw ▸ List.mem_cons_self)
    rw [startsWithDigit, List.head?_cons, Option.any_some, Bool.not_eq_true]
    exact isDigit_eq_false_of_isNameStart (isNameStart_of_isAlpha hd)

end Writing

section Joints

variable {k : LetterCase} {c : Char} {w cs rest : List Char}

/-- Tells that what stands behind a word in some letter case is told from it: nothing, or a word
with a capital in front, which is the only one if the word before is all capitals. -/
inductive Follows (k : LetterCase) : List Char → Prop
  | nothing : Follows k []
  | word {c d : Char} {cs : List Char} (hc : c.isUpper)
      (hd : k = .capitals → d.isLower) : Follows k (c :: d :: cs)

theorem words_hump_append (hc : c.isAlpha) (hne : cs ≠ []) (hs : ∀ d ∈ cs, d.isLower)
    (hr : Follows k rest) : words (c :: cs ++ rest) = (c :: cs) :: words rest := by
  apply words_append_of_joined (List.cons_ne_nil c cs)
  · intro d hd
    rcases List.mem_cons.mp hd with rfl | hd
    · exact isAlphanumeric_of_isAlpha hc
    · exact isAlphanumeric_of_isAlpha (isAlpha_of_isLower (hs d hd))
  · intro a e d b h
    apply joins_small
    apply hs
    cases a with
    | nil =>
      obtain ⟨-, rfl⟩ := List.cons.inj h
      exact List.mem_cons_self
    | cons x a =>
      obtain ⟨-, rfl⟩ := List.cons.inj h
      simp
  · intro a e h
    have he : e ∈ cs := by
      cases a with
      | nil => exact absurd (List.cons.inj h).2 hne
      | cons x a =>
        obtain ⟨-, rfl⟩ := List.cons.inj h
        simp
    cases hr with
    | nothing => rfl
    | word hu _ => exact not_joins_of_isLower (hs e he) hu

theorem words_capitals_append (hne : w ≠ []) (hu : ∀ d ∈ w, d.isUpper)
    (hr : Follows .capitals rest) : words (w ++ rest) = w :: words rest := by
  apply words_append_of_joined hne
  · intro d hd
    exact isAlphanumeric_of_isAlpha (isAlpha_of_isUpper (hu d hd))
  · rintro a e d b rfl
    apply joins_capital (hu e (by simp)) (hu d (by simp))
    intro f hf
    cases b with
    | nil =>
      cases hr with
      | nothing => simp at hf
      | word hc _ =>
        obtain rfl : _ = f := by simpa using hf
        exact hc
    | cons x b =>
      obtain rfl : x = f := by simpa using hf
      exact hu x (by simp)
  · rintro a e rfl
    cases hr with
    | nothing => rfl
    | word hc hd => exact not_joins_of_isUpper (hu e (by simp)) hc (hd rfl)

theorem words_write_append (hw : IsWord w) (hr : Follows k rest) :
    words (k.write w ++ rest) = k.write w :: words rest := by
  obtain ⟨c, d, cs, rfl⟩ := hw.exists_cons_cons
  have ha : ∀ e ∈ c :: d :: cs, e.isAlpha := hw.isAlpha
  have ht : ∀ e ∈ (d :: cs).map Char.toLower, e.isLower :=
    isLower_of_mem_map_toLower (List.forall_mem_cons.mp ha).2
  cases k with
  | small =>
    have hc : c.toLower.isAlpha := isAlpha_of_isLower (isLower_toLower (ha c (by simp)))
    exact words_hump_append hc (by simp) ht hr
  | capitalized =>
    have hc : c.toUpper.isAlpha := isAlpha_of_isUpper (isUpper_toUpper (ha c (by simp)))
    exact words_hump_append hc (by simp) ht hr
  | capitals =>
    exact words_capitals_append (List.cons_ne_nil _ _) (isUpper_of_mem_map_toUpper ha) hr

theorem words_write (hw : IsWord w) : words (k.write w) = [k.write w] := by
  have h := words_write_append hw (Follows.nothing (k := k))
  rwa [List.append_nil] at h

end Joints

section Parts

variable {part : LetterCase × List Char} {parts : List (LetterCase × List Char)}

theorem follows_spelled (hw : ∀ p ∈ parts, IsWord p.2) (hs : ∀ p ∈ parts, p.1 ≠ .small)
    (hc : ∀ p ∈ parts.head?, ¬ (part.1 = .capitals ∧ p.1 = .capitals)) :
    Follows part.1 (parts.flatMap spelled) := by
  cases parts with
  | nil => exact .nothing
  | cons p parts =>
    rw [List.forall_mem_cons] at hw hs
    obtain ⟨k, w⟩ := p
    obtain ⟨c, d, cs, rfl⟩ := hw.1.exists_cons_cons
    have hcu : c.toUpper.isUpper := isUpper_toUpper (hw.1.isAlpha c (by simp))
    have hdl : d.toLower.isLower := isLower_toLower (hw.1.isAlpha d (by simp))
    cases k with
    | small => exact absurd rfl hs.1
    | capitalized => exact .word hcu fun _ => hdl
    | capitals => exact .word hcu fun hp => absurd ⟨hp, rfl⟩ (hc _ rfl)

theorem words_flatMap_spelled (hw : ∀ p ∈ parts, IsWord p.2)
    (hs : ∀ p ∈ parts.tail, p.1 ≠ .small)
    (hc : parts.IsChain fun p q => ¬ (p.1 = .capitals ∧ q.1 = .capitals)) :
    words (parts.flatMap spelled) = parts.map spelled := by
  induction parts with
  | nil => rfl
  | cons p parts ih =>
    rw [List.forall_mem_cons] at hw
    rw [List.isChain_cons] at hc
    have ht : ∀ q ∈ parts.tail, q.1 ≠ .small := fun q hq => hs q (List.mem_of_mem_tail hq)
    have hf : Follows p.1 (parts.flatMap spelled) := follows_spelled hw.2 hs hc.1
    rw [List.flatMap_cons, spelled, words_write_append hw.1 hf, ih hw.2 ht hc.2]
    rfl

theorem flatMap_capitalize_spelled (hw : ∀ p ∈ parts, IsWord p.2) :
    (parts.map spelled).flatMap capitalize =
      (parts.map Prod.snd).flatMap LetterCase.capitalized.write := by
  rw [List.flatMap_map, List.flatMap_map]
  exact List.flatMap_congr fun p hp => capitalize_write (hw p hp).isAlpha

theorem words_flatMap_spelled_of_humps (parts : List (LetterCase × List Char))
    (hw : ∀ p ∈ parts, IsWord p.2) (h : ∀ p ∈ parts.tail, p.1 = .capitalized) :
    words (parts.flatMap spelled) = parts.map spelled := by
  apply words_flatMap_spelled hw
  · intro p hp
    simp [h p hp]
  · rw [List.isChain_iff_getElem]
    intro i hi
    have hm : parts[i + 1] ∈ parts.tail := by
      rw [← List.getElem_tail (i := i) (by simpa using by omega)]
      exact List.getElem_mem _
    simp [h _ hm]

end Parts

section Spellings

variable {ws written : List (List Char)} {name : List Char}

theorem flatMap_spelled (k : LetterCase) :
    (ws.map (k, ·)).flatMap spelled = ws.flatMap k.write := by
  rw [List.flatMap_map]
  rfl

theorem map_spelled (k : LetterCase) : (ws.map (k, ·)).map spelled = ws.map k.write := by
  rw [List.map_map]
  rfl

theorem exists_parts_of_underscores (k : LetterCase) (hw : ∀ w ∈ ws, IsWord w) :
    ∃ parts : List (LetterCase × List Char), parts.map Prod.snd = ws ∧
      parts.map spelled = ws.map k.write ∧
      words (['_'].intercalate (ws.map k.write)) = ws.map k.write := by
  refine ⟨ws.map (k, ·), by simp, map_spelled k, ?_⟩
  rw [words_intercalate, List.flatMap_map, List.map_eq_flatMap]
  exact List.flatMap_congr fun w hm => words_write (hw w hm)

theorem Spelling.exists_parts (hw : ∀ w ∈ ws, IsWord w) (h : Spelling ws written name) :
    ∃ parts : List (LetterCase × List Char), parts.map Prod.snd = ws ∧
      parts.map spelled = written ∧ words name = written := by
  have hcap : ∀ (vs : List (List Char)),
      ∀ p ∈ vs.map (LetterCase.capitalized, ·), p.1 = .capitalized := by
    intro vs p hp
    obtain ⟨v, -, rfl⟩ := List.mem_map.mp hp
    rfl
  cases h with
  | snakeCase => exact exists_parts_of_underscores .small hw
  | screamingSnakeCase => exact exists_parts_of_underscores .capitals hw
  | camelCase w ws =>
    have hh := words_flatMap_spelled_of_humps ((.small, w) :: ws.map (.capitalized, ·))
      (by simpa using hw) (hcap ws)
    rw [List.flatMap_cons, flatMap_spelled, List.map_cons, map_spelled] at hh
    refine ⟨(.small, w) :: ws.map (.capitalized, ·), by simp, ?_, hh⟩
    rw [List.map_cons, map_spelled]
    rfl
  | pascalCase =>
    have hh := words_flatMap_spelled_of_humps (ws.map (.capitalized, ·))
      (by simpa using hw) fun p hp => hcap ws p (List.mem_of_mem_tail hp)
    rw [flatMap_spelled, map_spelled] at hh
    exact ⟨ws.map (.capitalized, ·), by simp, map_spelled .capitalized, hh⟩
  | acronyms parts hsmall hcapitals =>
    refine ⟨parts, rfl, rfl, words_flatMap_spelled (fun p hp => ?_) hsmall hcapitals⟩
    exact hw p.2 (List.mem_map_of_mem hp)

/-- However a list of words is spelled, the name has these words, as they are written there, and the
symbol made from it is the words themselves, each with one capital in front. -/
theorem Spelling.normalizes (hw : ∀ w ∈ ws, IsWord w) (h : Spelling ws written name) :
    words name = written ∧
      written.map (·.map Char.toLower) = ws.map (·.map Char.toLower) ∧
      Convention.pascalCase.apply true (String.ofList name) =
        String.ofList (ws.flatMap LetterCase.capitalized.write) := by
  obtain ⟨parts, rfl, rfl, hn⟩ := h.exists_parts hw
  have hp : ∀ p ∈ parts, IsWord p.2 := fun p hp => hw p.2 (List.mem_map_of_mem hp)
  have hd : ∀ v ∈ (words name).tail, ¬ startsWithDigit v := by
    intro v hv
    rw [hn] at hv
    obtain ⟨p, hm, rfl⟩ := List.mem_map.mp (List.mem_of_mem_tail hv)
    exact not_startsWithDigit_write (hp p hm).isAlpha
  refine ⟨hn, ?_, ?_⟩
  · rw [List.map_map, List.map_map]
    exact List.map_congr_left fun p hm => map_toLower_write (hp p hm).isAlpha
  · rw [Convention.apply, if_pos rfl, String.toList_ofList,
      inPascalCase_eq_flatMap_capitalize hd, hn, flatMap_capitalize_spelled hp]

/-- An acronym between two ordinary words is a word of its own. -/
theorem Spelling.normalizes_acronym :
    (∀ w ∈ ["get".toList, "html".toList, "page".toList], IsWord w) ∧
      Spelling ["get".toList, "html".toList, "page".toList]
        ["get".toList, "HTML".toList, "Page".toList] "getHTMLPage".toList ∧
      words "getHTMLPage".toList = ["get".toList, "HTML".toList, "Page".toList] ∧
      Convention.pascalCase.apply true "getHTMLPage" = "GetHtmlPage" := by
  have hw : ∀ w ∈ ["get".toList, "html".toList, "page".toList], IsWord w := by decide
  have hs : Spelling ["get".toList, "html".toList, "page".toList]
      ["get".toList, "HTML".toList, "Page".toList] "getHTMLPage".toList :=
    .acronyms [(.small, "get".toList), (.capitals, "html".toList), (.capitalized, "page".toList)]
      (by decide) (by decide)
  have hn := Spelling.normalizes hw hs
  exact ⟨hw, hs, hn.1, hn.2.2⟩

end Spellings

end TypedTag.Naming
