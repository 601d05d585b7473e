import TypedTag.Decimal.Shortest
import TypedTag.Text.Quoted

/-! # Errors of JSON texts

Why a text is no JSON value, or why the value has not the wanted shape. Each cause belongs to one of
three categories: the text is malformed, it ends too early, or its shape is wrong.
-/

namespace TypedTag.Json

open Text Decimal

/-- What stands where something else is wanted. -/
inductive Found
  | null
  | boolean (b : Bool)
  | integer (n : Int)
  | float (x : Float)
  | string (s : String)
  | sequence
  | map

inductive Error
  | endInValue
  | endInObject
  | endInList
  | endInString
  | expectedValue
  | expectedIdent
  | invalidNumber
  | numberOutOfRange
  | keyNotString
  | expectedColon
  | expectedCommaOrBrace
  | expectedCommaOrBracket
  | trailingComma
  | trailingCharacters
  | invalidEscape
  | loneSurrogate
  | endOfHexEscape
  | controlCharacter
  | tooDeep
  | invalidType (found : Found) (wanted : String)
  | invalidLength (length : Nat) (wanted : String)
  | notSingleKey
  | unknownVariant (name : String) (known : List String)
  | missingField (name : String)
  | duplicateField (name : String)

inductive Category
  | malformed
  | truncated
  | shape
  deriving DecidableEq, Repr

def Error.category : Error → Category
  | .endInValue | .endInObject | .endInList | .endInString => .truncated
  | .invalidType .. | .invalidLength .. | .notSingleKey | .unknownVariant .. | .missingField ..
  | .duplicateField .. => .shape
  | _ => .malformed

/-- A positive finite number with at least one decimal, positional from `10 ^ -5` up to `10 ^ 16`.
Elsewhere it is in scientific notation, with a sign before every exponent. -/
def positiveText (x : Float) : String :=
  let d := shortest x
  let ds := (Nat.toDigits 10 d.digits)
  let point : Int := ds.length + d.scale
  let text : List Char :=
    if 0 ≤ d.scale ∧ point ≤ 16 then ds ++ List.replicate d.scale.toNat '0' ++ ['.', '0']
    else if 0 < point ∧ point ≤ 16 then ds.take point.toNat ++ '.' :: ds.drop point.toNat
    else if -5 < point ∧ point ≤ 0 then '0' :: '.' :: List.replicate (-point).toNat '0' ++ ds
    else
      let mantissa := if ds.length = 1 then ds else ds.take 1 ++ '.' :: ds.drop 1
      let mark := if 0 < point then ['e', '+'] else ['e']
      mantissa ++ mark ++ (toString (point - 1)).toList
  String.ofList text

def floatText (x : Float) : String :=
  let sign := if x.toBits < 0x8000000000000000 then "" else "-"
  sign ++ if x == 0 then "0.0" else positiveText x.abs

def Found.text : Found → String
  | .null => "null"
  | .boolean b => s!"boolean `{b}`"
  | .integer n => s!"integer `{n}`"
  | .float x => "floating point `" ++ floatText x ++ "`"
  | .string s => "string " ++ quoted s
  | .sequence => "sequence"
  | .map => "map"

def alternatives (names : List String) : String :=
  " or ".intercalate (names.map fun name => s!"`{name}`")

def Error.message : Error → String
  | .endInValue => "EOF while parsing a value"
  | .endInObject => "EOF while parsing an object"
  | .endInList => "EOF while parsing a list"
  | .endInString => "EOF while parsing a string"
  | .expectedValue => "expected value"
  | .expectedIdent => "expected ident"
  | .invalidNumber => "invalid number"
  | .numberOutOfRange => "number out of range"
  | .keyNotString => "key must be a string"
  | .expectedColon => "expected `:`"
  | .expectedCommaOrBrace => "expected `,` or `\x7d`"
  | .expectedCommaOrBracket => "expected `,` or `]`"
  | .trailingComma => "trailing comma"
  | .trailingCharacters => "trailing characters"
  | .invalidEscape => "invalid escape"
  | .loneSurrogate => "lone leading surrogate in hex escape"
  | .endOfHexEscape => "unexpected end of hex escape"
  | .controlCharacter => "control character (\\u0000-\\u001F) found while parsing a string"
  | .tooDeep => "recursion limit exceeded"
  | .invalidType found wanted => "invalid type: " ++ found.text ++ ", expected " ++ wanted
  | .invalidLength length wanted => s!"invalid length {length}, expected {wanted}"
  | .notSingleKey => "invalid value: map, expected map with a single key"
  | .unknownVariant name known => s!"unknown variant `{name}`, expected " ++ alternatives known
  | .missingField name => s!"missing field `{name}`"
  | .duplicateField name => s!"duplicate field `{name}`"

end TypedTag.Json
