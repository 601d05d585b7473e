import TypedTag.Json.Error

/-! # JSON values

Objects keep their members in the order of the text, repeated keys included.
-/

namespace TypedTag.Json

inductive Value
  | null
  | boolean (b : Bool)
  | integer (n : Int)
  | float (x : Float)
  | string (s : String)
  | array (items : List Value)
  | object (members : List (String × Value))

def Value.found : Value → Found
  | .null => .null
  | .boolean b => .boolean b
  | .integer n => .integer n
  | .float x => .float x
  | .string s => .string s
  | .array _ => .sequence
  | .object _ => .map

end TypedTag.Json
