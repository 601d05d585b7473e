/-! # UTF-8 contents

Files hold octets. Well-formed UTF-8 is read as text; otherwise the first broken sequence is
reported by the length of the well-formed part before it and by its longest part that could still
have been continued.
-/

namespace TypedTag.Text

/-- A broken sequence. It is incomplete if the octets end inside it. -/
inductive Utf8Fault
  | incomplete (index : Nat)
  | invalid (length index : Nat)
  deriving DecidableEq, Repr

namespace Utf8

/-- A sequence whose first octets were read: how many, how many are to come, and the range that the
next one has to be in. -/
structure Pending where
  seen : Nat
  missing : Nat
  low : UInt8
  high : UInt8

/-- The sequences of two to four octets, by their first octet. The range of the second octet leaves
out overlong forms, surrogates and what lies beyond U+10FFFF. -/
def begin? (octet : UInt8) : Option Pending :=
  if 0xC2 ≤ octet ∧ octet ≤ 0xDF then some ⟨1, 1, 0x80, 0xBF⟩
  else if octet = 0xE0 then some ⟨1, 2, 0xA0, 0xBF⟩
  else if octet = 0xED then some ⟨1, 2, 0x80, 0x9F⟩
  else if 0xE1 ≤ octet ∧ octet ≤ 0xEF then some ⟨1, 2, 0x80, 0xBF⟩
  else if octet = 0xF0 then some ⟨1, 3, 0x90, 0xBF⟩
  else if 0xF1 ≤ octet ∧ octet ≤ 0xF3 then some ⟨1, 3, 0x80, 0xBF⟩
  else if octet = 0xF4 then some ⟨1, 3, 0x80, 0x8F⟩
  else none

/-- The first broken sequence, where the one that is being read starts at `index`. -/
def fault? (index : Nat) : Option Pending → List UInt8 → Option Utf8Fault
  | none, [] => none
  | some _, [] => some (.incomplete index)
  | none, b :: bs =>
    if b < 0x80 then fault? (index + 1) none bs
    else match begin? b with
      | some p => fault? index (some p) bs
      | none => some (.invalid 1 index)
  | some p, b :: bs =>
    if p.low ≤ b ∧ b ≤ p.high then
      if p.missing = 1 then fault? (index + p.seen + 1) none bs
      else fault? index (some ⟨p.seen + 1, p.missing - 1, 0x80, 0xBF⟩) bs
    else some (.invalid p.seen index)

end Utf8

/-- The text that the octets spell. A well-formed sequence has no fault, so the fallback in the
second case never shows. -/
def decodeUtf8 (octets : ByteArray) : Except Utf8Fault String :=
  match String.fromUTF8? octets with
  | some s => .ok s
  | none => .error ((Utf8.fault? 0 none octets.toList).getD (.invalid 1 0))

def Utf8Fault.message : Utf8Fault → String
  | .incomplete index => s!"incomplete utf-8 byte sequence from index {index}"
  | .invalid length index => s!"invalid utf-8 sequence of {length} bytes from index {index}"

end TypedTag.Text
