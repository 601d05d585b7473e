import TypedTag.Text.Quoted

/-! # Tokens of documents

A token keeps its text as written and the place where it starts. A fault of the text stands where a
token should start.
-/

namespace TypedTag.Document

open Text

/-- A place in a text, counted from line 1, column 1. -/
structure Position where
  line : Nat := 1
  column : Nat := 1
  deriving DecidableEq, Repr

namespace Position

def nextLine (p : Position) : Position :=
  ⟨p.line + 1, 1⟩

def forward (p : Position) (columns : Nat) : Position :=
  ⟨p.line, p.column + columns⟩

/-- The place after some text that starts here. Every character but a line feed takes a column. -/
def after (p : Position) (text : List Char) : Position :=
  text.foldl (fun p c => if c = '\n' then p.nextLine else p.forward 1) p

end Position

inductive TokenKind
  | punctuator
  | name
  | int
  | float
  | string
  | block
  deriving DecidableEq, Repr

def TokenKind.label : TokenKind → String
  | .punctuator => "Punctuator"
  | .name => "Name"
  | .int => "IntValue"
  | .float => "FloatValue"
  | .string => "StringValue"
  | .block => "BlockString"

structure Token where
  kind : TokenKind
  text : String
  position : Position
  deriving DecidableEq, Repr

inductive LexicalFault
  | bareDot
  | tooDeep
  | badInteger (text : String)
  | badFloat (text : String)
  | openString
  | openBlock
  | badCharacter (c : Char)
  deriving DecidableEq, Repr

def LexicalFault.message : LexicalFault → String
  | .bareDot => "Unexpected bare dot '.' is not supported, only \"...\""
  | .tooDeep => "Recursion limit exceeded"
  | .badInteger text => "Unexpected unsupported integer " ++ quoted text
  | .badFloat text => "Unexpected unsupported float " ++ quoted text
  | .openString => "Unexpected unterminated string value"
  | .openBlock => "Unexpected unterminated block string value"
  | .badCharacter c => "Unexpected unexpected character " ++ quotedChar c

end TypedTag.Document
