import TypedTag.Text.Unprintable

/-! # Quoted text in messages

Names and fragments of documents stand quoted in messages. An unprintable character is shown by its
number, a quotation mark is escaped only inside marks of its own kind.
-/

namespace TypedTag.Text

def shown (mark c : Char) : List Char :=
  if c = mark ∨ c = '\\' then ['\\', c]
  else if c = '\x00' then ['\\', '0']
  else if c = '\n' then ['\\', 'n']
  else if c = '\r' then ['\\', 'r']
  else if c = '\t' then ['\\', 't']
  else if isUnprintable c then
    ['\\', 'u', '{'] ++ Nat.toDigits 16 c.toNat ++ ['}']
  else [c]

def quoted (s : String) : String :=
  String.ofList ('"' :: s.toList.flatMap (shown '"') ++ ['"'])

def quotedChar (c : Char) : String :=
  String.ofList ('\x27' :: shown '\x27' c ++ ['\x27'])

end TypedTag.Text
