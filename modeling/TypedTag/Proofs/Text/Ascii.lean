import TypedTag.Document.Lexer
import TypedTag.Text.CaseMap
import TypedTag.Text.LetterCase
import TypedTag.Text.Numeric

/-! # The characters of names

Names have only ASCII characters. There the letter cases and the letters and numerals of the general
tables are the ordinary ones, and one character has one character for its other case.
-/

namespace TypedTag.Text

open Document

theorem ascii_forall {p : Char → Prop} (h : ∀ n < 0x80, p (Char.ofNat n)) {c : Char}
    (hc : c.toNat < 0x80) : p c := by
  have hp := h c.toNat hc
  rwa [Char.ofNat_toNat] at hp

variable {c : Char}

theorem upperCase_of_lt (h : c.toNat < 0x80) : upperCase c = [c.toUpper] :=
  if_pos h

theorem lowerCase_of_lt (h : c.toNat < 0x80) : lowerCase c = [c.toLower] :=
  if_pos h

theorem isUppercase_of_lt (h : c.toNat < 0x80) : isUppercase c = c.isUpper :=
  if_pos h

theorem isLowercase_of_lt (h : c.toNat < 0x80) : isLowercase c = c.isLower :=
  if_pos h

theorem isNumeric_of_lt (h : c.toNat < 0x80) : isNumeric c = c.isDigit :=
  if_pos h

theorem toNat_lt_of_isNamePart (h : isNamePart c) : c.toNat < 0x80 := by
  rw [isNamePart, isNameStart] at h
  delta Char.isAlpha Char.isUpper Char.isLower Char.isDigit at h
  simp only [Bool.or_eq_true, Bool.and_eq_true, decide_eq_true_eq, UInt32.le_iff_toNat_le,
    ge_iff_le, Char.toNat_val] at h
  rcases h with ((h | h) | rfl) | h
  · have hz : 'Z'.toNat = 90 := rfl
    omega
  · have hz : 'z'.toNat = 122 := rfl
    omega
  · decide
  · have hz : '9'.toNat = 57 := rfl
    omega

theorem isNamePart_of_isNameStart (h : isNameStart c) : isNamePart c := by
  simp [isNamePart, h]

theorem isNameStart_of_isAlpha (h : c.isAlpha) : isNameStart c := by
  simp [isNameStart, h]

theorem toNat_lt_of_isAlpha (h : c.isAlpha) : c.toNat < 0x80 :=
  toNat_lt_of_isNamePart (isNamePart_of_isNameStart (isNameStart_of_isAlpha h))

theorem toNat_lt_of_isDigit (h : c.isDigit) : c.toNat < 0x80 :=
  toNat_lt_of_isNamePart (by simp [isNamePart, h])

theorem isNamePart_iff : isNamePart c ↔ c.isAlphanum ∨ c = '_' := by
  simp only [isNamePart, isNameStart, Char.isAlphanum, Bool.or_eq_true, decide_eq_true_eq]
  exact or_right_comm

theorem isDigit_eq_false_of_isNameStart (h : isNameStart c) : c.isDigit = false := by
  have hc : c.toNat < 0x80 := toNat_lt_of_isNamePart (isNamePart_of_isNameStart h)
  exact ascii_forall (p := fun c => isNameStart c → c.isDigit = false) (by decide) hc h

theorem isAlphanumeric_of_isNamePart (h : isNamePart c) :
    isAlphanumeric c = decide (c ≠ '_') :=
  ascii_forall (p := fun c => isNamePart c → isAlphanumeric c = decide (c ≠ '_'))
    (by decide) (toNat_lt_of_isNamePart h) h

theorem isAlphanumeric_of_ne_underscore (h : isNamePart c) (hu : c ≠ '_') : isAlphanumeric c := by
  rw [isAlphanumeric_of_isNamePart h]
  exact decide_eq_true hu

theorem isNamePart_toUpper (h : isNamePart c) : isNamePart c.toUpper :=
  ascii_forall (p := fun c => isNamePart c → isNamePart c.toUpper) (by decide)
    (toNat_lt_of_isNamePart h) h

theorem isNamePart_toLower (h : isNamePart c) : isNamePart c.toLower :=
  ascii_forall (p := fun c => isNamePart c → isNamePart c.toLower) (by decide)
    (toNat_lt_of_isNamePart h) h

theorem isUppercase_eq_false_of_isDigit (h : c.isDigit) : isUppercase c = false :=
  ascii_forall (p := fun c => c.isDigit → isUppercase c = false) (by decide)
    (toNat_lt_of_isDigit h) h

theorem toUpper_of_isDigit (h : c.isDigit) : c.toUpper = c :=
  ascii_forall (p := fun c => c.isDigit → c.toUpper = c) (by decide)
    (toNat_lt_of_isDigit h) h

theorem isDigit_toUpper (h : c.toNat < 0x80) : c.toUpper.isDigit = c.isDigit :=
  ascii_forall (p := fun c => c.toUpper.isDigit = c.isDigit) (by decide) h

/-- Of two changes of case only the second one counts. -/
theorem toUpper_of_form (h : c.toNat < 0x80) :
    c.toUpper.toUpper = c.toUpper ∧ c.toLower.toUpper = c.toUpper :=
  ascii_forall (p := fun c => c.toUpper.toUpper = c.toUpper ∧ c.toLower.toUpper = c.toUpper)
    (by decide) h

theorem toLower_of_form (h : c.toNat < 0x80) :
    c.toLower.toLower = c.toLower ∧ c.toUpper.toLower = c.toLower :=
  ascii_forall (p := fun c => c.toLower.toLower = c.toLower ∧ c.toUpper.toLower = c.toLower)
    (by decide) h

section Letters

theorem isAlpha_of_isUpper (h : c.isUpper) : c.isAlpha :=
  Bool.or_eq_true_iff.mpr (.inl h)

theorem isAlpha_of_isLower (h : c.isLower) : c.isAlpha :=
  Bool.or_eq_true_iff.mpr (.inr h)

theorem isUpper_toUpper (h : c.isAlpha) : c.toUpper.isUpper :=
  ascii_forall (p := fun c => c.isAlpha → c.toUpper.isUpper) (by decide) (toNat_lt_of_isAlpha h) h

theorem isLower_toLower (h : c.isAlpha) : c.toLower.isLower :=
  ascii_forall (p := fun c => c.isAlpha → c.toLower.isLower) (by decide) (toNat_lt_of_isAlpha h) h

theorem isAlphanumeric_of_isAlpha (h : c.isAlpha) : isAlphanumeric c := by
  apply isAlphanumeric_of_ne_underscore (isNamePart_of_isNameStart (isNameStart_of_isAlpha h))
  rintro rfl
  exact absurd h (by decide)

theorem isUppercase_of_isUpper (h : c.isUpper) : isUppercase c :=
  (isUppercase_of_lt (toNat_lt_of_isAlpha (isAlpha_of_isUpper h))).trans h

theorem isLowercase_of_isLower (h : c.isLower) : isLowercase c :=
  (isLowercase_of_lt (toNat_lt_of_isAlpha (isAlpha_of_isLower h))).trans h

theorem isLowercase_eq_false_of_isUpper (h : c.isUpper) : isLowercase c = false :=
  ascii_forall (p := fun c => c.isUpper → isLowercase c = false) (by decide)
    (toNat_lt_of_isAlpha (isAlpha_of_isUpper h)) h

theorem isUppercase_eq_false_of_isLower (h : c.isLower) : isUppercase c = false :=
  ascii_forall (p := fun c => c.isLower → isUppercase c = false) (by decide)
    (toNat_lt_of_isAlpha (isAlpha_of_isLower h)) h

theorem isNumeric_eq_false_of_isUpper (h : c.isUpper) : isNumeric c = false :=
  ascii_forall (p := fun c => c.isUpper → isNumeric c = false) (by decide)
    (toNat_lt_of_isAlpha (isAlpha_of_isUpper h)) h

end Letters

end TypedTag.Text
