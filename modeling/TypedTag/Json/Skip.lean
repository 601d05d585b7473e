import TypedTag.Json.Reader

/-! # Skipping JSON values

A value nobody asked for is only skipped. Its brackets, strings and numbers have to be well-formed,
but it may be nested at will, its numbers may be of any size and its surrogates unpaired.
-/

namespace TypedTag.Json.Reader

inductive Bracket
  | list
  | object
  deriving DecidableEq

def Bracket.closing : Bracket → Char
  | .list => ']'
  | .object => '}'

def Bracket.ended : Bracket → Error
  | .list => .endInList
  | .object => .endInObject

def Bracket.expectedComma : Bracket → Error
  | .list => .expectedCommaOrBracket
  | .object => .expectedCommaOrBrace

def skipString : Reader Unit := do
  advance
  discard (StateT.mk (stringRest false .none))

def skipDigits : Reader Unit := do
  let (ds, rest) := digitRun (← get)
  if ds.isEmpty then throw .invalidNumber
  set rest

def skipExponent : Reader Unit := do
  match ← get with
  | 'e' :: rest | 'E' :: rest =>
    match rest with
    | '+' :: rest | '-' :: rest => set rest
    | rest => set rest
    skipDigits
  | _ => return

/-- Skips a number after its sign. -/
def skipNumber : Reader Unit := do
  match (digitRun (← get)).1 with
  | 0 :: _ :: _ => throw .invalidNumber
  | _ => skipDigits
  match ← get with
  | '.' :: rest =>
    set rest
    skipDigits
    skipExponent
  | _ => skipExponent

def skipScalar (c : Char) : Reader Unit := do
  if c = '"' then skipString
  else if c = '-' then
    advance
    skipNumber
  else if c.isDigit then skipNumber
  else discard (scalar c)

/-- Closes brackets after a value, or after an opening bracket where no comma may follow. The
innermost bracket that stays open is the first of the result. -/
def closeBrackets : Bool → List Bracket → Reader (List Bracket)
  | _, [] => return []
  | afterValue, b :: outer => do
    match ← peek with
    | none => throw b.ended
    | some c =>
      if c = b.closing then
        advance
        closeBrackets true outer
      else if ¬ afterValue then return b :: outer
      else if c = ',' then
        advance
        return b :: outer
      else throw b.expectedComma

def skipKey : Reader Unit := do
  match ← peek with
  | none => throw .endInObject
  | some '"' => skipString
  | some _ => throw .keyNotString
  colon

def skip : Reader Unit :=
  loop (fun (brackets : List Bracket) => do
    let still ← match ← peek with
      | none => throw .endInValue
      | some '[' => do
        advance
        closeBrackets false (.list :: brackets)
      | some '{' => do
        advance
        closeBrackets false (.object :: brackets)
      | some c => do
        skipScalar c
        closeBrackets true brackets
    match still with
    | [] => return .inr ()
    | b :: outer =>
      if b = .object then skipKey
      return .inl (b :: outer)) []

end TypedTag.Json.Reader
