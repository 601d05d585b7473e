import TypedTag.Json.Value

/-! # Numbers in JSON texts

An integer that fits into 64 bits stays exact. Any other number becomes a floating-point number,
made from as many leading digits as fit into 64 bits and a power of ten.
-/

namespace TypedTag.Json

def digitRun (text : List Char) : List Nat × List Char :=
  ((text.takeWhile Char.isDigit).map fun c => c.toNat - '0'.toNat, text.dropWhile Char.isDigit)

/-- Appends leading digits to a significand while it fits into 64 bits, and counts them. -/
def absorb (significand : Nat) : List Nat → Nat × Nat
  | [] => (significand, 0)
  | d :: ds =>
    if significand * 10 + d < (1 <<< 64) then
      let (s, count) := absorb (significand * 10 + d) ds
      (s, count + 1)
    else (significand, 0)

/-- The number `significand * 10 ^ exponent`, unless it is too large. A power of ten below
`10 ^ -308` is divided out in two steps. -/
def scaled (significand : Nat) (exponent : Int) : Except Error Float :=
  let f := significand.toUInt64.toFloat
  let power (k : Int) : Float := Float.ofScientific 1 false k.toNat
  if significand = 0 then .ok 0
  else if 308 < exponent then .error .numberOutOfRange
  else if 0 ≤ exponent then
    let x := f * power exponent
    if x.isInf then .error .numberOutOfRange else .ok x
  else if -308 ≤ exponent then .ok (f / power (-exponent))
  else if -616 ≤ exponent then .ok (f / power 308 / power (-exponent - 308))
  else .ok 0

def signed (negative : Bool) (x : Float) : Float :=
  if negative then -x else x

/-- An exact integer, or a floating-point number if the sign or the size demands it. -/
def wholeNumber (negative : Bool) (n : Nat) : Value :=
  if ¬ negative then .integer n
  else if n = 0 ∨ (1 <<< 63) < n then .float (-n.toUInt64.toFloat)
  else .integer (-n)

/-- The exponent after its letter, and the number it completes. -/
def exponentPart (negative : Bool) (significand : Nat) (exponent : Int) (text : List Char) :
    Except Error (Value × List Char) := do
  let (down, text) := match text with
    | '+' :: r => (false, r)
    | '-' :: r => (true, r)
    | r => (false, r)
  let (ds, rest) := digitRun text
  if ds.isEmpty then throw (if rest.isEmpty then .endInValue else .invalidNumber)
  let e : Nat := ds.foldl (fun n d => n * 10 + d) 0
  if e < (1 <<< 31) then
    let x ← scaled significand (if down then exponent - e else exponent + e)
    return (.float (signed negative x), rest)
  else if significand ≠ 0 ∧ ¬ down then throw .numberOutOfRange
  else return (.float (signed negative 0), rest)

def number (negative : Bool) (text : List Char) : Except Error (Value × List Char) := do
  let (ds, rest) := digitRun text
  match ds with
  | [] => throw (if rest.isEmpty then .endInValue else .invalidNumber)
  | 0 :: _ :: _ => throw .invalidNumber
  | ds =>
    let (significand, count) := absorb 0 ds
    let exponent : Int := (ds.length - count : Nat)
    match rest with
    | '.' :: rest =>
      let (fs, rest) := digitRun rest
      if fs.isEmpty then throw (if rest.isEmpty then .endInValue else .invalidNumber)
      let (significand, count) := absorb significand fs
      match rest with
      | 'e' :: rest | 'E' :: rest => exponentPart negative significand (exponent - count) rest
      | rest => return (.float (signed negative (← scaled significand (exponent - count))), rest)
    | 'e' :: rest | 'E' :: rest => exponentPart negative significand exponent rest
    | rest =>
      if exponent = 0 then return (wholeNumber negative significand, rest)
      else return (.float (signed negative (← scaled significand exponent)), rest)

end TypedTag.Json
