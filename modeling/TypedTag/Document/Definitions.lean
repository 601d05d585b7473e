import TypedTag.Document.Lexer
import TypedTag.Document.Grammar
import TypedTag.Naming.Namer

/-! # The definitions of a document

A document is read from left to right. The first token that cannot go on is the error, unless a
value before it is one that no program can hold. Of a definition only its form and its name are
kept.
-/

namespace TypedTag.Document

open Naming Text

/-- Why the text of a value has no meaning. -/
inductive ValueFault
  | tooLarge
  | tooSmall
  | badExponent
  | badEscape (c : Char)
  | shortEscape (found : String)
  | badCodePoint (text : String)
  deriving DecidableEq, Repr

def ValueFault.message : ValueFault → String
  | .tooLarge => "number too large to fit in target type"
  | .tooSmall => "number too small to fit in target type"
  | .badExponent => "invalid float literal"
  | .badEscape c => "Unexpected bad escaped char " ++ quotedChar c
  | .shortEscape found =>
    s!"Unexpected \\u must have 4 characters after it, only found '{found}'"
  | .badCodePoint text => s!"Unexpected {text} is not a valid unicode code point"

def integerFault? (text : String) : Option ValueFault :=
  match text.toInt? with
  | some n =>
    if (1 <<< 63 : Nat) ≤ n then some .tooLarge
    else if n < -(1 <<< 63 : Nat) then some .tooSmall
    else none
  | none => none

def floatFault? (text : String) : Option ValueFault :=
  if text.toList.getLast?.any (fun c => c = '+' || c = '-') then some .badExponent else none

def isHexDigit (c : Char) : Bool :=
  c.isDigit || ('a' ≤ c && c ≤ 'f') || ('A' ≤ c && c ≤ 'F')

/-- The code points that stand for halves of a pair start with these digits. -/
def isSurrogate : List Char → Bool
  | [a, b, _, _] => (a = 'd' || a = 'D') && !(b.isDigit && b < '8')
  | _ => false

/-- Four hexadecimal digits, or a plus sign and three, that number a character. -/
def isCodePoint (digits : List Char) : Bool :=
  match digits with
  | '+' :: rest => !rest.isEmpty && rest.all isHexDigit
  | digits => digits.all isHexDigit && !isSurrogate digits

/-- The first bad escape between the quotes of a string. -/
def escapeFault? : List Char → Option ValueFault
  | '\\' :: 'u' :: a :: b :: c :: d :: cs =>
    if isCodePoint [a, b, c, d] then escapeFault? cs
    else some (.badCodePoint (String.ofList [a, b, c, d]))
  | '\\' :: 'u' :: cs => some (.shortEscape (String.ofList cs))
  | '\\' :: c :: cs =>
    if c ∈ ['"', '\\', '/', 'b', 'f', 'n', 'r', 't'] then escapeFault? cs
    else some (.badEscape c)
  | _ :: cs => escapeFault? cs
  | [] => none

def valueFault? (t : Token) : Option ValueFault :=
  match t.kind with
  | .int => integerFault? t.text
  | .float => floatFault? t.text
  | .string => escapeFault? t.text.toList.tail.dropLast
  | _ => none

inductive ParseDetail
  | lexical (fault : LexicalFault)
  | endOfText
  | token (t : Token)
  | value (fault : ValueFault)
  deriving DecidableEq, Repr

/-- The place of an error. It has no detail if a definition could have followed there. -/
structure ParseError where
  position : Position
  detail : Option ParseDetail
  deriving DecidableEq, Repr

def ParseDetail.message : ParseDetail → String
  | .lexical fault => fault.message
  | .endOfText => "Unexpected end of input"
  | .token t => s!"Unexpected `{t.text}[{t.kind.label}]`"
  | .value fault => fault.message

def ParseError.message (e : ParseError) : String :=
  s!"query parse error: Parse error at {e.position.line}:{e.position.column}\n" ++
    match e.detail with
    | some detail => detail.message ++ "\n"
    | none => ""

/-- A definition of a document. An operation may go without a name, and a query without anything
but its selections. -/
inductive Definition
  | fragment (name : String)
  | query (name : Option String)
  | mutation (name : Option String)
  | subscription (name : Option String)
  | selections
  deriving DecidableEq, Repr

def Definition.named? : Definition → Option (DefinitionKind × String)
  | .fragment name => some (.fragment, name)
  | .query name => name.map (.query, ·)
  | .mutation name => name.map (.mutation, ·)
  | .subscription name => name.map (.subscription, ·)
  | .selections => none

/-- The definition that a token starts. It has the next token for its name, if that is a name. -/
def startedBy? (t : Token) (next : Option Token) : Option Definition :=
  let name := (next.filter (·.kind = .name)).map Token.text
  match t.text with
  | "fragment" => name.map .fragment
  | "query" => some (.query name)
  | "mutation" => some (.mutation name)
  | "subscription" => some (.subscription name)
  | _ => some .selections

/-- What the end of the tokens means for the goals that are left. -/
def atEnd (goals : List Goal) (stop : Position) (fault : Option LexicalFault) :
    Except ParseError (List Definition) :=
  if goals.all Goal.mayEnd then
    if fault.isNone then .ok [] else .error ⟨stop, none⟩
  else .error ⟨stop, some ((fault.map ParseDetail.lexical).getD .endOfText)⟩

def parseFrom (stop : Position) (fault : Option LexicalFault) :
    List Goal → List Token → Except ParseError (List Definition)
  | goals, [] => atEnd goals stop fault
  | goals, t :: ts =>
    match take? t goals with
    | none => .error ⟨t.position, some (.token t)⟩
    | some (g, goals) =>
      match if g.takesValue then valueFault? t else none with
      | some fault => .error ⟨t.position, some (.value fault)⟩
      | none => do
        let definitions ← parseFrom stop fault goals ts
        let started := if g.isDefinition then startedBy? t ts.head? else none
        return started.toList ++ definitions

/-- A parser finds the definitions of a text. -/
abbrev Parser := String → Except ParseError (List Definition)

def definitions : Parser := fun text =>
  let lexed := lex text
  parseFrom lexed.stop lexed.fault [.firstDefinition] lexed.tokens

end TypedTag.Document
