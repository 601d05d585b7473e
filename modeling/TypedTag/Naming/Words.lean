import TypedTag.Text.LetterCase
import TypedTag.Text.Numeric

/-! # Words of a name

A name is split at characters that are neither letters nor numerals, before a capital that follows
a small letter or a numeral, and before the last capital of a run that goes on in small letters.
-/

namespace TypedTag.Naming

open Text

/-- Tells whether a word starts at `c`, which follows `prev` and is followed by `next`. -/
def startsWord (prev c : Char) (next : Option Char) : Bool :=
  isUppercase c &&
    (isLowercase prev || isNumeric prev || (isUppercase prev && next.any isLowercase))

/-- Tells whether the character before `cs` belongs to the same word as the first one of `cs`. -/
def joins (prev : Char) : List Char → Bool
  | [] => false
  | c :: cs => isAlphanumeric c && !startsWord prev c cs.head?

/-- Puts a character in front of the first word. -/
def attach (c : Char) : List (List Char) → List (List Char)
  | [] => [[c]]
  | w :: ws => (c :: w) :: ws

def words : List Char → List (List Char)
  | [] => []
  | c :: cs =>
    if isAlphanumeric c then
      if joins c cs then attach c (words cs) else [c] :: words cs
    else words cs

end TypedTag.Naming
