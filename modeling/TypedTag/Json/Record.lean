import TypedTag.Json.Skip

/-! # Records as JSON

A record is written as an object with its fields in order. It is read directly from a text, as an
object or as a list of its fields, or laid over a given record by the members of an object that was
read before. Keys that name no field are ignored.
-/

namespace TypedTag.Json

variable {α σ : Type}

/-- What a field holds, and how it is taken from a record and put into one. A choice is put in by
the name of one of its variants. -/
inductive Slot (σ : Type)
  | text (get : σ → String) (set : String → σ → σ)
  | optionalText (get : σ → Option String) (set : Option String → σ → σ)
  | flag (get : σ → Bool) (set : Bool → σ → σ)
  | choice (get : σ → String) (variants : List (String × (σ → σ)))

structure Field (σ : Type) where
  name : String
  slot : Slot σ

/-- A type of records. Fields that are not required keep the value they have in `start`. -/
structure Record (σ : Type) where
  name : String
  fields : List (Field σ)
  required : Bool
  start : σ

def chosen (variants : List (String × α)) (name : String) : Except Error α :=
  match variants.lookup name with
  | some a => .ok a
  | none => .error (.unknownVariant name (variants.map (·.1)))

namespace Slot

def encode (s : σ) : Slot σ → Value
  | .text get _ => .string (get s)
  | .optionalText get _ => (get s).elim .null .string
  | .flag get _ => .boolean (get s)
  | .choice get _ => .string (get s)

def put (s : σ) : Slot σ → Value → Except Error σ
  | .text _ set, .string t => .ok (set t s)
  | .text _ _, v => .error (.invalidType v.found "a string")
  | .optionalText _ set, .null => .ok (set none s)
  | .optionalText _ set, .string t => .ok (set (some t) s)
  | .optionalText _ _, v => .error (.invalidType v.found "a string")
  | .flag _ set, .boolean b => .ok (set b s)
  | .flag _ _, v => .error (.invalidType v.found "a boolean")
  | .choice _ variants, .string name => (chosen variants name).map (· s)
  | .choice _ variants, .object [(name, content)] => do
    let variant ← chosen variants name
    match content with
    | .null | .object [] => return variant s
    | v => throw (.invalidType v.found "unit")
  | .choice _ _, .object _ => .error .notSingleKey
  | .choice _ _, v => .error (.invalidType v.found "string or map")

end Slot

namespace Reader

def text : Reader String := do
  match ← peek with
  | some '"' => string
  | _ => mismatch "a string"

def optionalText : Reader (Option String) := do
  match ← peek with
  | some 'n' =>
    ident ['u', 'l', 'l']
    return none
  | _ => some <$> text

def flag : Reader Bool := do
  match ← peek with
  | some 't' =>
    ident ['r', 'u', 'e']
    return true
  | some 'f' =>
    ident ['a', 'l', 's', 'e']
    return false
  | _ => mismatch "a boolean"

/-- One of the named variants, as a string or as an object with the variant as its only key. -/
def choice (variants : List (String × α)) : Reader α := do
  match ← peek with
  | none => throw .endInValue
  | some '"' => chosen variants (← string)
  | some '{' =>
    advance
    let name ← match ← peek with
      | none => throw .endInObject
      | some '"' => string
      | some '\x7d' => throw .expectedValue
      | some _ => throw .keyNotString
    let variant ← chosen variants name
    colon
    match ← peek with
    | some 'n' => ident ['u', 'l', 'l']
    | _ => mismatch "unit"
    match ← peek with
    | none => throw .endInObject
    | some '}' => advance
    | some _ => throw .expectedValue
    return variant
  | some _ => throw .expectedValue

def list (item : Reader α) : Reader (List α) := do
  match ← peek with
  | some '[' => items item
  | _ => mismatch "a sequence"

end Reader

def Slot.read (s : σ) : Slot σ → Reader σ
  | .text _ set => (set · s) <$> Reader.text
  | .optionalText _ set => (set · s) <$> Reader.optionalText
  | .flag _ set => (set · s) <$> Reader.flag
  | .choice _ variants => (· s) <$> Reader.choice variants

namespace Record

open Reader

def field? (r : Record σ) (key : String) : Option (Field σ) :=
  r.fields.find? (·.name = key)

def encode (r : Record σ) (s : σ) : Value :=
  .object (r.fields.map fun f => (f.name, f.slot.encode s))

/-- Lays the members over a record from left to right. The fields in `seen` were set before. -/
def overlay (r : Record σ) (seen : List String) (s : σ) :
    List (String × Value) → Except Error σ
  | [] => .ok s
  | (key, v) :: ms =>
    match r.field? key with
    | none => r.overlay seen s ms
    | some f =>
      if key ∈ seen then .error (.duplicateField key)
      else do r.overlay (key :: seen) (← f.slot.put s v) ms

/-- The end of a list of which all fields were read. -/
def closeItems : Reader Unit := do
  match ← peek with
  | none => throw .endInList
  | some ']' => advance
  | some ',' =>
    advance
    throw (if (← peek) = some ']' then .trailingComma else .trailingCharacters)
  | some _ => throw .trailingCharacters

def readItems (r : Record σ) (position : Nat) (s : σ) : List (Field σ) → Reader σ
  | [] => do
    closeItems
    return s
  | f :: fs => do
    if ← anotherItem (position = 0) then r.readItems (position + 1) (← f.slot.read s) fs
    else if r.required then
      throw (.invalidLength position s!"struct {r.name} with {r.fields.length} elements")
    else
      closeItems
      return s

/-- The members of an object. The state is the record so far with the fields set in it, or nothing
before the first member. -/
def readMembers (r : Record σ) : Reader σ :=
  loop (fun (state : Option (List String × σ)) => do
    let (seen, s) := state.getD ([], r.start)
    match ← anotherKey? state.isNone with
    | none =>
      advance
      match r.fields.find? (·.name ∉ seen) with
      | some f => if r.required then throw (.missingField f.name)
      | none => pure ()
      return .inr s
    | some key =>
      match r.field? key with
      | none =>
        colon
        skip
        return .inl (some (seen, s))
      | some f =>
        if key ∈ seen then throw (.duplicateField key)
        colon
        return .inl (some (key :: seen, ← f.slot.read s))) none

def read (r : Record σ) : Reader σ := do
  match ← peek with
  | some '[' =>
    advance
    r.readItems 0 r.start r.fields
  | some '{' =>
    advance
    r.readMembers
  | _ => mismatch ("struct " ++ r.name)

end Record

end TypedTag.Json
