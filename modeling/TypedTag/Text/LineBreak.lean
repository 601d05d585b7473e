/-! # Line breaks

A carriage return directly before a line feed is dropped. Any other carriage return stays.
-/

namespace TypedTag.Text

def unifyBreaks : List Char → List Char
  | '\r' :: '\n' :: cs => '\n' :: unifyBreaks cs
  | c :: cs => c :: unifyBreaks cs
  | [] => []

def withLineFeeds (s : String) : String :=
  String.ofList (unifyBreaks s.toList)

end TypedTag.Text
