import Mathlib.Data.List.Chain
import TypedTag.Proofs.Naming.Offsets

/-! # Where the words of a name lie

The words of a name are pieces of it, in order. Between two neighbouring words there are only signs
and at least one of them, or else the second one starts right behind the first at a boundary. Inside
a word there is no boundary. Whether there is one at a position is told by the characters around it
in the name, whichever words they belong to.
-/

namespace TypedTag.Naming

open Text

/-- Tells whether there is a boundary at a position of a name: a capital stands there, behind a
small letter or a numeral, or between another capital and a small letter. -/
def BoundaryAt (cs : List Char) (i : Nat) : Prop :=
  ∃ j prev c, i = j + 1 ∧ cs[j]? = some prev ∧ cs[j + 1]? = some c ∧ isUppercase c ∧
    (isLowercase prev ∨ isNumeric prev ∨
      isUppercase prev ∧ ∃ next, cs[j + 2]? = some next ∧ isLowercase next)

def SignsBetween (cs : List Char) (start stop : Nat) : Prop :=
  ∀ i c, start ≤ i → i < stop → cs[i]? = some c → isAlphanumeric c = false

structure Span where
  start : Nat
  stop : Nat
  lt : start < stop

namespace Span

def text (s : Span) (cs : List Char) : List Char :=
  cs.extract s.start s.stop

structure Within (cs : List Char) (s : Span) : Prop where
  le : s.stop ≤ cs.length
  inner : ∀ i, s.start < i → i < s.stop → ¬ BoundaryAt cs i

/-- Tells that a piece of a text is the next one behind another: there are signs between them, or
they meet at a boundary. -/
def Follows (cs : List Char) (s t : Span) : Prop :=
  s.stop < t.start ∧ SignsBetween cs s.stop t.start ∨ s.stop = t.start ∧ BoundaryAt cs t.start

def shift (s : Span) : Span :=
  ⟨s.start + 1, s.stop + 1, Nat.succ_lt_succ s.lt⟩

def extend (s : Span) : Span :=
  ⟨s.start, s.stop + 1, Nat.lt_succ_of_lt s.lt⟩

end Span

structure Parts (cs : List Char) (spans : List Span) : Prop where
  words_eq : words cs = spans.map (·.text cs)
  within : ∀ s ∈ spans, s.Within cs
  chain : spans.IsChain (Span.Follows cs)
  first : ∀ s ∈ spans.head?, SignsBetween cs 0 s.start

variable {c d : Char} {cs : List Char} {s t : Span} {spans : List Span} {i m n : Nat}

section Boundary

theorem not_boundaryAt_zero : ¬ BoundaryAt cs 0 := by
  rintro ⟨j, prev, c, h, -⟩
  exact absurd h (Nat.succ_ne_zero j).symm

theorem boundaryAt_one : BoundaryAt (c :: d :: cs) 1 ↔ startsWord c d cs.head? := by
  have hn : (∃ next, cs[0]? = some next ∧ isLowercase next) ↔ cs.head?.any isLowercase := by
    rw [List.head?_eq_getElem?, Option.any_eq_true]
  simp [BoundaryAt, startsWord, ← hn, or_assoc]

theorem boundaryAt_add_two : BoundaryAt (c :: cs) (i + 2) ↔ BoundaryAt cs (i + 1) := by
  simp [BoundaryAt]

theorem not_boundaryAt_one_of_joins (h : joins c (d :: cs)) : ¬ BoundaryAt (c :: d :: cs) 1 := by
  rw [boundaryAt_one]
  simp only [joins, Bool.and_eq_true, Bool.not_eq_true'] at h
  simp [h.2]

theorem exists_cons_of_joins (h : joins c cs) : ∃ d t, cs = d :: t ∧ isAlphanumeric d := by
  cases cs with
  | nil => simp [joins] at h
  | cons d t =>
    simp only [joins, Bool.and_eq_true] at h
    exact ⟨d, t, rfl, h.1⟩

theorem boundaryAt_one_of_not_joins (hd : isAlphanumeric d) (h : joins c (d :: cs) = false) :
    BoundaryAt (c :: d :: cs) 1 := by
  rw [boundaryAt_one]
  simpa [joins, hd] using h

end Boundary

section Shift

theorem signsBetween_self (cs : List Char) (n : Nat) : SignsBetween cs n n :=
  fun _ _ hn hm => absurd hm (Nat.not_lt.mpr hn)

theorem SignsBetween.shift (h : SignsBetween cs m n) : SignsBetween (c :: cs) (m + 1) (n + 1) := by
  intro i d hm hn hd
  obtain ⟨i, rfl⟩ := Nat.exists_eq_succ_of_ne_zero (Nat.ne_zero_of_lt hm)
  exact h i d (Nat.le_of_succ_le_succ hm) (Nat.lt_of_succ_lt_succ hn) hd

namespace Span

theorem text_shift (s : Span) (c : Char) (cs : List Char) :
    s.shift.text (c :: cs) = s.text cs := by
  simp [text, shift]

theorem Within.shift (h : s.Within cs) : s.shift.Within (c :: cs) where
  le := Nat.succ_le_succ h.le
  inner := by
    intro i hs ht
    obtain ⟨i, rfl⟩ : ∃ j, i = j + 2 := ⟨i - 2, by have : s.start + 1 < i := hs; omega⟩
    rw [boundaryAt_add_two]
    exact h.inner _ (Nat.lt_of_succ_lt_succ hs) (Nat.lt_of_succ_lt_succ ht)

/-- What follows a piece depends on its end only. -/
theorem Follows.shift (h : s.Follows cs t) {s' : Span} (hs : s'.stop = s.stop + 1) :
    s'.Follows (c :: cs) t.shift := by
  rcases h with ⟨hlt, h⟩ | ⟨he, hb⟩
  · refine .inl ⟨by simp only [Span.shift]; omega, ?_⟩
    rw [hs]
    exact h.shift
  · refine .inr ⟨by simp only [Span.shift]; omega, ?_⟩
    obtain ⟨i, hi⟩ := Nat.exists_eq_succ_of_ne_zero fun h : t.start = 0 =>
      not_boundaryAt_zero (h ▸ hb)
    simp only [Span.shift, hi] at hb ⊢
    exact boundaryAt_add_two.mpr hb

end Span

theorem map_text_shift (c : Char) (cs : List Char) (spans : List Span) :
    (spans.map Span.shift).map (·.text (c :: cs)) = spans.map (·.text cs) := by
  rw [List.map_map]
  exact List.map_congr_left fun s _ => s.text_shift c cs

theorem within_shift (h : ∀ s ∈ spans, s.Within cs) :
    ∀ s ∈ spans.map Span.shift, s.Within (c :: cs) := by
  rw [List.forall_mem_map]
  exact fun s hs => (h s hs).shift

theorem forall_mem_head?_shift {p : Span → Prop} :
    (∀ t ∈ (spans.map Span.shift).head?, p t) ↔ ∀ s ∈ spans.head?, p s.shift := by
  cases spans <;> simp

theorem isChain_shift (h : spans.IsChain (Span.Follows cs)) :
    (spans.map Span.shift).IsChain (Span.Follows (c :: cs)) := by
  rw [List.isChain_map]
  exact h.imp fun s t hst => hst.shift rfl

end Shift

namespace Parts

theorem nil : Parts [] [] :=
  ⟨rfl, by simp, .nil, by simp⟩

theorem exists_eq_cons (h : Parts (d :: cs) spans) (hd : isAlphanumeric d) :
    ∃ s rest, spans = s :: rest ∧ s.start = 0 := by
  cases spans with
  | nil =>
    obtain ⟨w, ws, hw⟩ := exists_words_cons hd cs
    exact absurd (hw.symm.trans h.words_eq) (List.cons_ne_nil _ _)
  | cons s rest =>
    refine ⟨s, rest, rfl, Nat.eq_zero_of_not_pos fun hs => ?_⟩
    have hf : isAlphanumeric d = false := h.first s rfl 0 d (Nat.zero_le 0) hs rfl
    exact Bool.false_ne_true (hf.symm.trans hd)

theorem exists_cons_of_start_eq_zero (h : Parts cs spans) (hs : s ∈ spans.head?)
    (h0 : s.start = 0) : ∃ d t, cs = d :: t ∧ isAlphanumeric d := by
  have hm : s ∈ spans := List.mem_of_mem_head? hs
  obtain ⟨d, t, rfl⟩ := List.exists_cons_of_length_pos
    (Nat.lt_of_lt_of_le (Nat.zero_lt_of_lt s.lt) (h.within s hm).le)
  have hw : s.text (d :: t) ∈ words (d :: t) := h.words_eq ▸ List.mem_map_of_mem hm
  obtain ⟨n, hn⟩ := Nat.exists_eq_succ_of_ne_zero (Nat.ne_zero_of_lt s.lt)
  have hd : d ∈ s.text (d :: t) := by simp [Span.text, h0, hn]
  exact ⟨d, t, rfl, (mem_and_isAlphanumeric_of_mem_words hw hd).2⟩

theorem sign (h : Parts cs spans) (hc : isAlphanumeric c = false) :
    Parts (c :: cs) (spans.map Span.shift) where
  words_eq := by rw [words_cons_sign hc, h.words_eq, map_text_shift]
  within := within_shift h.within
  chain := isChain_shift h.chain
  first := by
    rw [forall_mem_head?_shift]
    intro s hs i d hi hd
    cases i with
    | zero => exact fun he => Option.some.inj he ▸ hc
    | succ i => exact h.first s hs i d (Nat.zero_le i) (Nat.lt_of_succ_lt_succ hd)

theorem attach (h : Parts (d :: cs) (s :: spans)) (hs : s.start = 0) (hc : isAlphanumeric c)
    (hj : joins c (d :: cs)) : Parts (c :: d :: cs) (s.extend :: spans.map Span.shift) where
  words_eq := by
    have ht : s.extend.text (c :: d :: cs) = c :: s.text (d :: cs) := by
      simp [Span.text, Span.extend, hs]
    rw [words_cons_of_joins hc hj, h.words_eq, List.map_cons, List.map_cons, map_text_shift, ht]
    rfl
  within := by
    obtain ⟨hw, hr⟩ := List.forall_mem_cons.mp h.within
    refine List.forall_mem_cons.mpr ⟨⟨Nat.succ_le_succ hw.le, ?_⟩, ?_⟩
    · intro i hi ht
      obtain ⟨i, rfl⟩ := Nat.exists_eq_succ_of_ne_zero (Nat.ne_zero_of_lt hi)
      cases i with
      | zero => exact not_boundaryAt_one_of_joins hj
      | succ i =>
        rw [boundaryAt_add_two]
        exact hw.inner _ (hs ▸ Nat.succ_pos i) (Nat.lt_of_succ_lt_succ ht)
    · exact within_shift hr
  chain := by
    obtain ⟨hh, hr⟩ := List.isChain_cons.mp h.chain
    rw [List.isChain_cons, forall_mem_head?_shift]
    exact ⟨fun t ht => (hh t ht).shift rfl, isChain_shift hr⟩
  first := by
    intro t ht
    obtain rfl := Option.some.inj ht
    change SignsBetween _ 0 s.start
    rw [hs]
    exact signsBetween_self _ 0

theorem cons (h : Parts cs spans) (hc : isAlphanumeric c) (hj : joins c cs = false) :
    Parts (c :: cs) (⟨0, 1, Nat.one_pos⟩ :: spans.map Span.shift) where
  words_eq := by
    rw [words_cons_of_not_joins hc hj, h.words_eq, List.map_cons, map_text_shift]
    rfl
  within := by
    refine List.forall_mem_cons.mpr ⟨⟨Nat.succ_le_succ (Nat.zero_le _), ?_⟩, within_shift h.within⟩
    intro i hi ht
    exact absurd (Nat.le_of_lt_succ ht) (Nat.not_le.mpr hi)
  chain := by
    rw [List.isChain_cons, forall_mem_head?_shift]
    refine ⟨fun t ht => ?_, isChain_shift h.chain⟩
    rcases Nat.eq_zero_or_pos t.start with h0 | hp
    · obtain ⟨d, cs, rfl, hd⟩ := h.exists_cons_of_start_eq_zero ht h0
      have h1 : t.shift.start = 1 := congrArg (· + 1) h0
      refine .inr ⟨h1.symm, ?_⟩
      rw [h1]
      exact boundaryAt_one_of_not_joins hd hj
    · exact .inl ⟨Nat.succ_lt_succ hp, (h.first t ht).shift⟩
  first := by
    intro t ht
    obtain rfl := Option.some.inj ht
    exact signsBetween_self _ 0

end Parts

theorem exists_parts (cs : List Char) : ∃ spans, Parts cs spans := by
  induction cs with
  | nil => exact ⟨[], .nil⟩
  | cons c cs ih =>
    obtain ⟨spans, h⟩ := ih
    cases hc : isAlphanumeric c with
    | false => exact ⟨_, h.sign hc⟩
    | true =>
      cases hj : joins c cs with
      | false => exact ⟨_, h.cons hc hj⟩
      | true =>
        obtain ⟨d, t, rfl, hd⟩ := exists_cons_of_joins hj
        obtain ⟨s, rest, rfl, hs⟩ := h.exists_eq_cons hd
        exact ⟨_, h.attach hs hc hj⟩

/-- The pass over a name misses nothing. The words it finds are rows of letters and numerals and
hold all of those in the name. They are pieces of the name without a boundary in them, one behind
the other, with signs between them or else with a boundary where they meet. -/
theorem scan_words (name : String) :
    scan? name = some ((words name.toList).map String.ofList) ∧
      (∀ w ∈ words name.toList, w ≠ [] ∧ ∀ c ∈ w, isAlphanumeric c) ∧
      (words name.toList).flatten = name.toList.filter isAlphanumeric ∧
      ∃ spans : List Span, words name.toList = spans.map (·.text name.toList) ∧
        (∀ s ∈ spans, s.Within name.toList) ∧ spans.IsChain (Span.Follows name.toList) := by
  obtain ⟨spans, h⟩ := exists_parts name.toList
  refine ⟨scan?_eq name, ?_, flatten_words _, spans, h.words_eq, h.within, h.chain⟩
  intro w hw
  exact ⟨ne_nil_of_mem_words _ w hw, fun c hc => (mem_and_isAlphanumeric_of_mem_words hw hc).2⟩

end TypedTag.Naming
