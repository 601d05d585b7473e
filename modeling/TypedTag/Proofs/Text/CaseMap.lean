import TypedTag.Proofs.Text.Ascii

/-! # Letter case and the underscore

An underscore is in the written form of no other character, in upper or lower case. What a change of
case makes of a character is listed in tables, so it is enough to look at the images in them.
-/

namespace TypedTag.Text

variable {c d : Char} {cs : List Char}

/-- Tells whether no entry of the tables of a case conversion has an image at a code point. -/
def spares (shifts : List Shift) (expansions : List (Nat × List Nat)) (n : Nat) : Bool :=
  expansions.all (fun e => e.2.all (· != n)) &&
    shifts.all fun s => n < s.target || s.target + (s.run.last - s.run.first) < n

theorem Shift.image?_ne {s : Shift} {m n : Nat}
    (h : n < s.target ∨ s.target + (s.run.last - s.run.first) < n) : s.image? m ≠ some n := by
  unfold Shift.image?
  split
  case isTrue hm =>
    simp only [Run.contains, Bool.and_eq_true, decide_eq_true_eq] at hm
    intro he
    have hn : s.target + (m - s.run.first) = n := Option.some.inj he
    omega
  case isFalse => simp

/-- A code point that is not valid is written as the character zero. -/
theorem ofNat_ne {n : Nat} (hd : d.toNat ≠ 0) (hn : n ≠ d.toNat) : Char.ofNat n ≠ d := by
  rintro rfl
  by_cases hv : n.isValidChar
  · exact hn (by rw [Char.ofNat, dif_pos hv]; rfl)
  · exact hd (by rw [Char.ofNat, dif_neg hv]; rfl)

theorem not_mem_convertCase {shifts : List Shift} {expansions : List (Nat × List Nat)}
    (h : spares shifts expansions d.toNat) (hd : d.toNat ≠ 0) (hc : c ≠ d) :
    d ∉ convertCase shifts expansions c := by
  simp only [spares, Bool.and_eq_true, List.all_eq_true, Bool.or_eq_true, decide_eq_true_eq,
    bne_iff_ne] at h
  unfold convertCase
  split
  case h_1 image hl =>
    intro hm
    obtain ⟨n, hn, he⟩ := List.mem_map.mp hm
    obtain ⟨l₁, l₂, rfl, -⟩ := List.lookup_eq_some_iff.mp hl
    have hmem : (c.toNat, image) ∈ l₁ ++ (c.toNat, image) :: l₂ :=
      List.mem_append_right _ List.mem_cons_self
    exact ofNat_ne hd (h.1 _ hmem n hn) he
  case h_2 =>
    split
    case h_1 n hs =>
      obtain ⟨s, hmem, hi⟩ := List.exists_of_findSome?_eq_some hs
      rw [List.mem_singleton]
      refine (ofNat_ne hd ?_).symm
      rintro rfl
      exact Shift.image?_ne (h.2 s hmem) hi
    case h_2 => simpa using Ne.symm hc

theorem underscore_not_mem_upperCase (hc : c ≠ '_') : '_' ∉ upperCase c := by
  unfold upperCase
  split
  case isTrue h =>
    rw [List.mem_singleton]
    exact ascii_forall (p := fun c => c ≠ '_' → '_' ≠ c.toUpper) (by decide) h hc
  case isFalse => exact not_mem_convertCase (by decide) (by decide) hc

theorem underscore_not_mem_lowerCase (hc : c ≠ '_') : '_' ∉ lowerCase c := by
  unfold lowerCase
  split
  case isTrue h =>
    rw [List.mem_singleton]
    exact ascii_forall (p := fun c => c ≠ '_' → '_' ≠ c.toLower) (by decide) h hc
  case isFalse => exact not_mem_convertCase (by decide) (by decide) hc

end TypedTag.Text
