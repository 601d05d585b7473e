import TypedTag.Json.Error

/-! # Strings in JSON texts

A string is read character by character after its opening quote. Escapes by number are UTF-16
units, so a character beyond U+FFFF takes a pair of them. A reader that only skips a string leaves
the pairing unchecked.
-/

namespace TypedTag.Json

/-- How far an escape has been read. The first half of a pair is kept until the second is complete;
`digits` holds the value and the number of the digits read. -/
inductive EscapeState
  | none
  | begun
  | digits (first : Option Nat) (value count : Nat)
  | pairBackslash (first : Nat)
  | pairLetter (first : Nat)

def hexDigit? (c : Char) : Option Nat :=
  if c.isDigit then some (c.toNat - '0'.toNat)
  else if 'a' ≤ c ∧ c ≤ 'f' then some (c.toNat - 'a'.toNat + 10)
  else if 'A' ≤ c ∧ c ≤ 'F' then some (c.toNat - 'A'.toNat + 10)
  else none

def shortEscape? : Char → Option Char
  | '"' => some '"'
  | '\\' => some '\\'
  | '/' => some '/'
  | 'b' => some '\x08'
  | 'f' => some '\x0c'
  | 'n' => some '\n'
  | 'r' => some '\r'
  | 't' => some '\t'
  | _ => none

/-- What a complete unit stands for: a character, or the first half of a pair. -/
def closeUnit (paired : Bool) (first : Option Nat) (unit : Nat) :
    Except Error (EscapeState × Option Char) :=
  if ¬ paired then .ok (.none, some (Char.ofNat unit))
  else match first with
    | some high =>
      if 0xDC00 ≤ unit ∧ unit ≤ 0xDFFF then
        .ok (.none, some (Char.ofNat (0x10000 + (high - 0xD800) * 0x400 + (unit - 0xDC00))))
      else .error .loneSurrogate
    | none =>
      if 0xDC00 ≤ unit ∧ unit ≤ 0xDFFF then .error .loneSurrogate
      else if 0xD800 ≤ unit ∧ unit ≤ 0xDBFF then .ok (.pairBackslash unit, none)
      else .ok (.none, some (Char.ofNat unit))

/-- The string up to its closing quote, and the text after it. A wrong hexadecimal digit is only
told from the end of the text if four octets are left for the digits. -/
def stringRest (paired : Bool) : EscapeState → List Char → Except Error (List Char × List Char)
  | _, [] => .error .endInString
  | .none, c :: cs =>
    if c = '"' then .ok ([], cs)
    else if c = '\\' then stringRest paired .begun cs
    else if c.toNat < 0x20 then .error .controlCharacter
    else (stringRest paired .none cs).map fun (s, rest) => (c :: s, rest)
  | .begun, c :: cs =>
    if c = 'u' then stringRest paired (.digits none 0 0) cs
    else match shortEscape? c with
      | some d => (stringRest paired .none cs).map fun (s, rest) => (d :: s, rest)
      | none => .error .invalidEscape
  | .digits first value count, c :: cs =>
    match hexDigit? c with
    | none =>
      let octets := count + c.utf8Size + (String.ofList (cs.take 4)).utf8ByteSize
      .error (if octets < 4 then .endInString else .invalidEscape)
    | some d =>
      if count < 3 then stringRest paired (.digits first (value * 16 + d) (count + 1)) cs
      else do
        let (state, char) ← closeUnit paired first (value * 16 + d)
        (stringRest paired state cs).map fun (s, rest) => (char.toList ++ s, rest)
  | .pairBackslash first, c :: cs =>
    if c = '\\' then stringRest paired (.pairLetter first) cs else .error .endOfHexEscape
  | .pairLetter first, c :: cs =>
    if c = 'u' then stringRest paired (.digits (some first) 0 0) cs else .error .endOfHexEscape

end TypedTag.Json
