/-! # String literals

Double-quoted literals, readable as JSON and as ECMAScript alike. A literal stands on one line: the
quote, the backslash and every character below the space are escaped, everything else is itself.
-/

namespace TypedTag.Text

def escape (c : Char) : List Char :=
  if c = '"' then ['\\', '"']
  else if c = '\\' then ['\\', '\\']
  else if c = '\x08' then ['\\', 'b']
  else if c = '\x0c' then ['\\', 'f']
  else if c = '\n' then ['\\', 'n']
  else if c = '\r' then ['\\', 'r']
  else if c = '\t' then ['\\', 't']
  else if c.toNat < 0x20 then
    ['\\', 'u', '0', '0', Nat.digitChar (c.toNat / 16), Nat.digitChar (c.toNat % 16)]
  else [c]

def literalChars (cs : List Char) : List Char :=
  '"' :: cs.flatMap escape ++ ['"']

def literal (s : String) : String :=
  String.ofList (literalChars s.toList)

end TypedTag.Text
