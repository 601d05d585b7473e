import TypedTag.Json.Value
import TypedTag.Text.Literal

/-! # Printing JSON values

A value is written on one line without blanks, or with one item a line and two spaces for each level
of nesting. Empty lists and objects take no lines of their own.
-/

namespace TypedTag.Json

open Text

/-- The nesting level of an indented layout, or `none` for a layout on one line. -/
abbrev Layout := Option Nat

def Layout.inner (layout : Layout) : Layout :=
  layout.map (· + 1)

def Layout.lineBreak : Layout → List Char
  | none => []
  | some level => '\n' :: List.replicate (2 * level) ' '

def Layout.colon : Layout → List Char
  | none => [':']
  | some _ => [':', ' ']

mutual

def Value.print (layout : Layout) : Value → List Char
  | .null => ['n', 'u', 'l', 'l']
  | .boolean true => ['t', 'r', 'u', 'e']
  | .boolean false => ['f', 'a', 'l', 's', 'e']
  | .integer n => (toString n).toList
  | .float x => (floatText x).toList
  | .string s => literalChars s.toList
  | .array [] => ['[', ']']
  | .array (v :: vs) =>
    '[' :: layout.inner.lineBreak ++ v.print layout.inner ++ printItems layout.inner vs ++
      layout.lineBreak ++ [']']
  | .object [] => ['{', '}']
  | .object ((key, v) :: ms) =>
    '{' :: layout.inner.lineBreak ++ literalChars key.toList ++ layout.colon ++
      v.print layout.inner ++ printMembers layout.inner ms ++ layout.lineBreak ++ ['}']

def printItems (layout : Layout) : List Value → List Char
  | [] => []
  | v :: vs => ',' :: layout.lineBreak ++ v.print layout ++ printItems layout vs

def printMembers (layout : Layout) : List (String × Value) → List Char
  | [] => []
  | (key, v) :: ms =>
    ',' :: layout.lineBreak ++ literalChars key.toList ++ layout.colon ++ v.print layout ++
      printMembers layout ms

end

def Value.compact (v : Value) : String :=
  String.ofList (v.print none)

def Value.indented (v : Value) : String :=
  String.ofList (v.print (some 0))

end TypedTag.Json
