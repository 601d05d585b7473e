import TypedTag.Json.Number
import TypedTag.Json.Text

/-! # Reading JSON

A reader takes a value from the front of a text. Whatever is wrong first, from left to right, is the
error. Values may be nested 127 deep.
-/

namespace TypedTag.Json

abbrev Reader (α : Type) := StateT (List Char) (Except Error) α

namespace Reader

variable {α σ : Type}

def isSpace (c : Char) : Bool :=
  c = ' ' ∨ c = '\n' ∨ c = '\t' ∨ c = '\r'

/-- Skips white space and looks at the next character. -/
def peek : Reader (Option Char) := do
  modify (·.dropWhile isSpace)
  return (← get).head?

def advance : Reader Unit :=
  modify List.tail

/-- Repeats a step until it has a result, at most the given number of times. -/
def repeatStep (step : σ → Reader (σ ⊕ α)) : Nat → σ → Reader α
  | 0, _ => throw .endInValue
  | n + 1, s => do
    match ← step s with
    | .inl s => repeatStep step n s
    | .inr a => return a

/-- Repeats a step until it has a result. Every step but the last takes a character, so there is at
most one step more than there are characters. -/
def loop (step : σ → Reader (σ ⊕ α)) (s : σ) : Reader α := do
  repeatStep step ((← get).length + 1) s

/-- The rest of a word of which the first letter has been seen. -/
def ident (letters : List Char) : Reader Unit := do
  advance
  letters.forM fun letter => do
    match (← get).head? with
    | none => throw .endInValue
    | some c => if c = letter then advance else throw .expectedIdent

def string : Reader String := do
  advance
  String.ofList <$> stringRest true .none

def scalar (c : Char) : Reader Value := do
  if c = 'n' then
    ident ['u', 'l', 'l']
    return .null
  else if c = 't' then
    ident ['r', 'u', 'e']
    return .boolean true
  else if c = 'f' then
    ident ['a', 'l', 's', 'e']
    return .boolean false
  else if c = '"' then .string <$> string
  else if c = '-' then
    advance
    number true
  else if c.isDigit then number false
  else throw .expectedValue

/-- Tells whether a list goes on, and skips the comma before its next item. -/
def anotherItem (first : Bool) : Reader Bool := do
  match ← peek with
  | none => throw .endInList
  | some ']' => return false
  | some c =>
    if first then return true
    if c ≠ ',' then throw .expectedCommaOrBracket
    advance
    match ← peek with
    | none => throw .endInValue
    | some ']' => throw .trailingComma
    | some _ => return true

/-- The next key of an object, if it goes on. -/
def anotherKey? (first : Bool) : Reader (Option String) := do
  match ← peek with
  | none => throw .endInObject
  | some '}' => return none
  | some c =>
    if first then
      if c = '"' then return some (← string) else throw .keyNotString
    if c ≠ ',' then throw .expectedCommaOrBrace
    advance
    match ← peek with
    | none => throw .endInValue
    | some '}' => throw .trailingComma
    | some '"' => return some (← string)
    | some _ => throw .keyNotString

def colon : Reader Unit := do
  match ← peek with
  | none => throw .endInObject
  | some ':' => advance
  | some _ => throw .expectedColon

def items (item : Reader α) : Reader (List α) := do
  advance
  loop (fun (done : List α) => do
    if ← anotherItem done.isEmpty then return .inl ((← item) :: done)
    advance
    return .inr done.reverse) []

def members (member : Reader α) : Reader (List (String × α)) := do
  advance
  loop (fun (done : List (String × α)) => do
    match ← anotherKey? done.isEmpty with
    | some key =>
      colon
      return .inl ((key, ← member) :: done)
    | none =>
      advance
      return .inr done.reverse) []

def value (depth : Nat) : Reader Value := do
  match ← peek with
  | none => throw .endInValue
  | some '[' =>
    match depth with
    | 0 => throw .tooDeep
    | depth + 1 => .array <$> items (value depth)
  | some '{' =>
    match depth with
    | 0 => throw .tooDeep
    | depth + 1 => .object <$> members (value depth)
  | some c => scalar c

/-- The largest depth of nested lists and objects. -/
def maxDepth : Nat := 127

def finish : Reader Unit := do
  if (← peek).isSome then throw .trailingCharacters

/-- The error for a value of another type than the wanted one. A scalar is read first. -/
def mismatch (wanted : String) : Reader α := do
  match ← peek with
  | none => throw .endInValue
  | some '[' => throw (.invalidType .sequence wanted)
  | some '{' => throw (.invalidType .map wanted)
  | some c => throw (.invalidType (← scalar c).found wanted)

def run (reader : Reader α) (text : String) : Except Error α := do
  let action : Reader α := do
    let a ← reader
    finish
    return a
  action.run' text.toList

end Reader

end TypedTag.Json
