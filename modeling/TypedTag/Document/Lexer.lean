import TypedTag.Document.Token
import TypedTag.Text.Split

/-! # From text to tokens

Blanks, commas, byte order marks and comments only separate tokens. Brackets may be nested 50 deep.
The tokens end with the text or before the first fault in it.
-/

namespace TypedTag.Document

open Text

def isNameStart (c : Char) : Bool :=
  c.isAlpha || c = '_'

def isNamePart (c : Char) : Bool :=
  isNameStart c || c.isDigit

def endsNumber (c : Char) : Bool :=
  c ∈ [' ', '\n', '\r', '\t', ',', '#', '!', '$', ':', '=', '@', '|', '&', '(', ')', '[', ']', '{',
    '}']

/-- An optional minus sign and digits, of which the first is zero only if it is the last. -/
def isInteger (text : List Char) : Bool :=
  let digits := if text.head? = some '-' then text.tail else text
  digits = ['0'] || (!digits.isEmpty && digits.head? ≠ some '0' && digits.all Char.isDigit)

def isFraction (text : List Char) : Bool :=
  !text.isEmpty && text.all Char.isDigit

/-- A sign or a digit from 1 to 8, and then digits only. -/
def isExponent : List Char → Bool
  | [] => false
  | c :: cs => (c = '+' || c = '-' || ('1' ≤ c && c ≤ '8')) && cs.all Char.isDigit

def isExponentMark (c : Char) : Bool :=
  c = 'e' || c = 'E'

def isWithFraction (text : List Char) : Bool :=
  match splitLast? (· = '.') text with
  | some (whole, fraction) => isInteger whole && isFraction fraction
  | none => isInteger text

def isFloat (text : List Char) : Bool :=
  match splitLast? isExponentMark text with
  | some (number, exponent) => isWithFraction number && isExponent exponent
  | none => isWithFraction text

/-- A string after its opening quote, up to the first quote that is not escaped. -/
def stringRest? (escaped : Bool) : List Char → Option (List Char)
  | [] => none
  | c :: cs =>
    if c = '\n' then none
    else if c = '"' ∧ ¬ escaped then some [c]
    else (stringRest? (c = '\\' && !escaped) cs).map (c :: ·)

/-- A block after its opening quotes, up to the first three quotes that follow no backslash. -/
def blockRest? (previous : Char) : List Char → Option (List Char)
  | [] => none
  | '"' :: '"' :: '"' :: cs =>
    if previous = '\\' then (blockRest? '"' cs).map (['"', '"', '"'] ++ ·)
    else some ['"', '"', '"']
  | c :: cs => (blockRest? c cs).map (c :: ·)

/-- The token that starts with the given character: its kind, and its text after that character. -/
def lexeme (c : Char) (cs : List Char) : Except LexicalFault (TokenKind × List Char) :=
  if c ∈ ['(', ')', '[', ']', '{', '}', '!', '$', ':', '=', '@', '|', '&'] then
    .ok (.punctuator, [])
  else if c = '.' then
    if cs.take 2 = ['.', '.'] then .ok (.punctuator, ['.', '.']) else .error .bareDot
  else if isNameStart c then .ok (.name, cs.takeWhile isNamePart)
  else if c = '-' ∨ c.isDigit then
    let rest := cs.takeWhile (!endsNumber ·)
    let text := c :: rest
    if rest.any fun d => d = '.' || isExponentMark d then
      if isFloat text then .ok (.float, rest) else .error (.badFloat (String.ofList text))
    else if isInteger text then .ok (.int, rest)
    else .error (.badInteger (String.ofList text))
  else if c = '"' then
    if cs.take 2 = ['"', '"'] then
      match blockRest? '"' (cs.drop 2) with
      | some rest => .ok (.block, '"' :: '"' :: rest)
      | none => .error .openBlock
    else
      match stringRest? false cs with
      | some rest => .ok (.string, rest)
      | none => .error .openString
  else .error (.badCharacter c)

def budgetAfter (budget : Nat) (c : Char) : Except LexicalFault Nat :=
  if c = '(' ∨ c = '[' ∨ c = '{' then
    match budget with
    | 0 => .error .tooDeep
    | budget + 1 => .ok budget
  else if c = ')' ∨ c = ']' ∨ c = '}' then .ok (budget + 1)
  else .ok budget

/-- The tokens of a text, the place where they end, and the fault there unless the text ends. -/
structure Lexed where
  tokens : List Token
  stop : Position
  fault : Option LexicalFault

def Lexed.cons (t : Token) (l : Lexed) : Lexed :=
  { l with tokens := t :: l.tokens }

def isBreak (c : Char) : Bool :=
  c = '\n' || c = '\r'

def lexFrom (budget : Nat) (p : Position) : List Char → Lexed
  | [] => ⟨[], p, none⟩
  | c :: cs =>
    if c = ' ' ∨ c = ',' then lexFrom budget (p.forward 1) cs
    else if c = '\t' then lexFrom budget (p.forward 8) cs
    else if c = '\n' then lexFrom budget p.nextLine cs
    else if c = '\r' ∨ c = '\ufeff' then lexFrom budget p cs
    else if c = '#' then
      lexFrom budget (if cs.any isBreak then p.nextLine else p) (cs.dropWhile (!isBreak ·)).tail
    else
      match budgetAfter budget c, lexeme c cs with
      | .ok budget, .ok (kind, rest) =>
        let text := c :: rest
        (lexFrom budget (p.after text) (cs.drop rest.length)).cons ⟨kind, String.ofList text, p⟩
      | .error fault, _ | _, .error fault => ⟨[], p, some fault⟩
termination_by text => text.length
decreasing_by
  all_goals simp only [List.length_cons, List.length_drop, List.length_tail]
  all_goals try omega
  all_goals
    have := (List.dropWhile_suffix (l := cs) (!isBreak ·)).length_le
    omega

def lex (text : String) : Lexed :=
  lexFrom 50 {} text.toList

end TypedTag.Document
