import Mathlib.Algebra.Ring.Parity
import Mathlib.Data.List.Induction
import TypedTag.Proofs.GeneratedModule.RegistryLiteral
import TypedTag.Proofs.Json.Record

/-! # String literals of a script

A script reads a string literal by rules of its own, which know more escapes than JSON and give the
UTF-16 units of the string. The literals of a module use only what both have in common, so a script
and a JSON reader take the same text from them. Every quote inside a literal is escaped, as an odd
number of backslashes stands before it.
-/

namespace TypedTag.Script

open Json (hexDigit? shortEscape?)

def units (n : Nat) : List Nat :=
  if n < 0x10000 then [n]
  else [0xD800 + (n - 0x10000) / 0x400, 0xDC00 + (n - 0x10000) % 0x400]

def unitsOf (s : String) : List Nat :=
  s.toList.flatMap fun c => units c.toNat

def isLineEnd (c : Char) : Bool :=
  c = '\n' ∨ c = '\r' ∨ c = '\u2028' ∨ c = '\u2029'

def letterEscape? : Char → Option Char
  | '\x27' => some '\x27'
  | '"' => some '"'
  | '\\' => some '\\'
  | 'b' => some '\x08'
  | 'f' => some '\x0c'
  | 'n' => some '\n'
  | 'r' => some '\r'
  | 't' => some '\t'
  | 'v' => some '\x0b'
  | _ => none

def hexValue? (digits : List Char) : Option Nat :=
  digits.foldlM (fun n d => (hexDigit? d).map (n * 16 + ·)) 0

/-- The units that an escape stands for, from behind its backslash, and what follows it. A line end
that is escaped stands for nothing. -/
def escape? : List Char → Option (List Nat × List Char)
  | [] => none
  | 'u' :: '{' :: text => do
    let digits := text.takeWhile (· ≠ '}')
    let n ← hexValue? digits
    match text.dropWhile (· ≠ '}') with
    | [] => none
    | _ :: rest => if digits.isEmpty ∨ 0x10FFFF < n then none else some (units n, rest)
  | 'u' :: a :: b :: c :: d :: rest => (hexValue? [a, b, c, d]).map fun n => ([n], rest)
  | 'x' :: a :: b :: rest => (hexValue? [a, b]).map fun n => ([n], rest)
  | '0' :: rest => if rest.head?.any Char.isDigit then none else some ([0], rest)
  | '\r' :: '\n' :: rest => some ([], rest)
  | c :: rest =>
    if isLineEnd c then some ([], rest)
    else if c = 'u' ∨ c = 'x' ∨ c.isDigit then none
    else some (units ((letterEscape? c).getD c).toNat, rest)

def charUnits? : List Char → Option (List Nat × List Char)
  | [] => none
  | '\\' :: rest => escape? rest
  | c :: rest => if c = '"' ∨ c = '\n' ∨ c = '\r' then none else some (units c.toNat, rest)

/-- Tells what a string stands for, from behind its opening quote, and what follows its closing
one. -/
inductive Spells : List Char → List Nat → List Char → Prop
  | close (rest : List Char) : Spells ('"' :: rest) [] rest
  | char {text text' rest : List Char} {us value : List Nat} :
      charUnits? text = some (us, text') → Spells text' value rest → Spells text (us ++ value) rest

def ReadsString (text : List Char) (value : List Nat) (rest : List Char) : Prop :=
  ∃ inner, text = '"' :: inner ∧ Spells inner value rest

section Reading

variable {text rest rest' : List Char} {value value' : List Nat} {e c : Char}

theorem Spells.unique (h : Spells text value rest) (h' : Spells text value' rest') :
    value = value' ∧ rest = rest' := by
  induction h generalizing value' with
  | close rest =>
    cases h' with
    | close => exact ⟨rfl, rfl⟩
    | char hc _ => simp [charUnits?] at hc
  | char hc _ ih =>
    cases h' with
    | close => simp [charUnits?] at hc
    | char hc' ht' =>
      rw [hc, Option.some.injEq, Prod.mk.injEq] at hc'
      obtain ⟨rfl, rfl⟩ := hc'
      obtain ⟨rfl, rfl⟩ := ih ht'
      exact ⟨rfl, rfl⟩

theorem escape?_shortEscape (h : shortEscape? e = some c) :
    escape? (e :: rest) = some (units c.toNat, rest) := by
  unfold shortEscape? at h
  split at h <;> first | (obtain rfl := Option.some.inj h; rfl) | simp at h

theorem escape?_number (h : c.toNat < 0x20) :
    escape? ('u' :: '0' :: '0' :: Nat.digitChar (c.toNat / 16) :: Nat.digitChar (c.toNat % 16) ::
      rest) = some (units c.toNat, rest) := by
  have h₁ := Text.hexDigit?_digitChar (c.toNat / 16) (by omega)
  have h₂ := Text.hexDigit?_digitChar (c.toNat % 16) (by omega)
  have h₀ : hexDigit? '0' = some 0 := by decide
  have hv : c.toNat / 16 * 16 + c.toNat % 16 = c.toNat := by omega
  have hu : units c.toNat = [c.toNat] := if_pos (by omega)
  simp [escape?, hexValue?, h₀, h₁, h₂, hv, hu]

theorem charUnits?_escape (c : Char) :
    charUnits? (Text.escape c ++ rest) = some (units c.toNat, rest) := by
  rcases Text.escape_cases c with ⟨e, he, h⟩ | ⟨hc, h⟩ | ⟨hq, hb, hc, h⟩ <;> rw [h]
  · exact escape?_shortEscape he
  · exact escape?_number hc
  · have hl : ¬ (c = '"' ∨ c = '\n' ∨ c = '\r') := by
      rintro (rfl | rfl | rfl)
      · exact hq rfl
      · exact absurd hc (by decide)
      · exact absurd hc (by decide)
    simp [charUnits?, hl]

theorem spells_flatMap_escape (s rest : List Char) :
    Spells (s.flatMap Text.escape ++ '"' :: rest) (s.flatMap fun c => units c.toNat) rest := by
  induction s with
  | nil => exact .close rest
  | cons c s ih =>
    rw [List.flatMap_cons, List.flatMap_cons, List.append_assoc]
    exact .char (charUnits?_escape c) ih

theorem readsString_literal_iff (s : String) :
    ReadsString ((Text.literal s).toList ++ rest) value rest' ↔
      value = unitsOf s ∧ rest' = rest := by
  have hs := spells_flatMap_escape s.toList rest
  rw [Text.toList_literal, Text.literalChars_append]
  constructor
  · rintro ⟨inner, hi, h⟩
    obtain rfl := (List.cons.inj hi).2
    exact h.unique hs
  · rintro ⟨rfl, rfl⟩
    exact ⟨_, rfl, hs⟩

end Reading

end TypedTag.Script

namespace TypedTag.Text

open Json Script

section Quotes

variable {c : Char} {l r cs : List Char}

def backslashes (cs : List Char) : Nat :=
  (cs.reverse.takeWhile (· = '\\')).length

theorem backslashes_append_backslash (cs : List Char) :
    backslashes (cs ++ ['\\']) = backslashes cs + 1 := by
  simp [backslashes]

theorem backslashes_append_of_ne (h : c ≠ '\\') (cs : List Char) :
    backslashes (cs ++ [c]) = 0 := by
  simp [backslashes, h]

theorem digitChar_ne_backslash : ∀ n < 16, Nat.digitChar n ≠ '\\' := by
  decide

theorem digitChar_ne_quote : ∀ n < 16, Nat.digitChar n ≠ '"' := by
  decide

theorem even_backslashes_append_escape (h : Even (backslashes cs)) (c : Char) :
    Even (backslashes (cs ++ escape c)) := by
  rcases escape_cases c with ⟨e, -, he⟩ | ⟨hc, he⟩ | ⟨-, hb, -, he⟩ <;> rw [he]
  · rw [← List.singleton_append, ← List.append_assoc]
    by_cases hb : e = '\\'
    · rw [hb, backslashes_append_backslash, backslashes_append_backslash]
      exact h.add_one.add_one
    · rw [backslashes_append_of_ne hb]
      exact Even.zero
  · have hd := digitChar_ne_backslash (c.toNat % 16) (by omega)
    have hs := backslashes_append_of_ne hd
      (cs ++ ['\\', 'u', '0', '0', Nat.digitChar (c.toNat / 16)])
    rw [List.append_assoc] at hs
    exact hs ▸ Even.zero
  · rw [backslashes_append_of_ne hb]
    exact Even.zero

theorem eq_backslash_of_escape (h : escape c = l ++ '"' :: r) : l = ['\\'] := by
  rcases escape_cases c with ⟨e, -, he⟩ | ⟨hc, he⟩ | ⟨hq, -, -, he⟩ <;> rw [he] at h
  · rcases l with _ | ⟨a, _ | ⟨b, l⟩⟩
    · simp at h
    · obtain ⟨rfl, -⟩ := List.cons.inj h
      rfl
    · simp at h
  · have hm : '"' ∈ l ++ '"' :: r := by simp
    rw [← h] at hm
    have h₁ := digitChar_ne_quote (c.toNat / 16) (by omega)
    have h₂ := digitChar_ne_quote (c.toNat % 16) (by omega)
    simp [h₁.symm, h₂.symm] at hm
  · obtain ⟨rfl, hr⟩ | ⟨a, rfl, hr⟩ := List.cons_eq_append_iff.mp h
    · exact absurd (List.cons.inj hr).1.symm hq
    · simp at hr

/-- What is written for a text ends outside an escape, and its quotes are escaped. -/
theorem quotes_flatMap_escape (s : List Char) :
    Even (backslashes (s.flatMap escape)) ∧
      ∀ l r, s.flatMap escape = l ++ '"' :: r → Odd (backslashes l) := by
  induction s using List.reverseRecOn with
  | nil => exact ⟨Even.zero, by simp⟩
  | append_singleton s c ih =>
    obtain ⟨heven, hodd⟩ := ih
    rw [List.flatMap_append, List.flatMap_singleton]
    refine ⟨even_backslashes_append_escape heven c, fun l r h => ?_⟩
    rcases List.append_eq_append_iff.mp h with ⟨m, rfl, hm⟩ | ⟨m, hs, hm⟩
    · -- The quote is written for the last character.
      rw [eq_backslash_of_escape hm, backslashes_append_backslash]
      exact heven.add_one
    · cases m with
      | nil =>
        exact absurd (eq_backslash_of_escape (l := []) hm.symm) (List.cons_ne_nil _ _).symm
      | cons b m =>
        obtain ⟨rfl, -⟩ := List.cons.inj hm
        exact hodd l m hs

end Quotes

section Places

variable (s : String)

theorem text_literal (rest : List Char) :
    Reader.text ((literal s).toList ++ rest) = .ok (s, rest) := by
  rw [toList_literal]
  exact (Reader.readsBack_text s none).reads rest Reader.blank_nil

theorem text_entryLine (space definition : String) :
    Reader.text (entryLine space (s, definition)).toList =
      .ok (s, (s!": {space}.{definition},").toList) := by
  have hb : Reader.Blank "    ".toList := by simp [Reader.Blank, Reader.isSpace]
  have he : (entryLine space (s, definition)).toList =
      "    ".toList ++ (literalChars s.toList ++ (s!": {space}.{definition},").toList) := by
    simp [entryLine]
  rw [he]
  exact (Reader.readsBack_text s none).reads _ hb

end Places

/-- A literal is one line without control characters, from a quote to the next one that is not
escaped. Whatever follows it, JSON and a script read it as the text it was written from, so it is
never the beginning of another literal. The key of an entry, the parameter of its overload and the
index in its result are read as one and the same text. -/
theorem literal_reads_back (s : String) :
    (∃ inner, (literal s).toList = '"' :: (inner ++ ['"']) ∧ Even (backslashes inner) ∧
      ∀ l r, inner = l ++ '"' :: r → Odd (backslashes l)) ∧
    (∀ c ∈ (literal s).toList, 0x20 ≤ c.toNat) ∧
    Reader.text.run (literal s) = .ok s ∧
    (∀ rest, Reader.text ((literal s).toList ++ rest) = .ok (s, rest)) ∧
    (∀ rest value rest', ReadsString ((literal s).toList ++ rest) value rest' ↔
      value = unitsOf s ∧ rest' = rest) ∧
    (∀ t, literal s = literal t ↔ s = t) ∧
    (∀ t u v, literal s ++ u = literal t ++ v ↔ s = t ∧ u = v) ∧
    ∀ settings space definition,
      let o := Overload.ofEntry .standalone settings (s, definition)
      Reader.text (entryLine space (s, definition)).toList =
          .ok (s, (s!": {space}.{definition},").toList) ∧
        Reader.text o.param.render.toList = .ok (s, []) ∧
        ∃ index, o.result.render = s!"(typeof {settings.registryIdentifier})[" ++ index ∧
          Reader.text index.toList = .ok (s, [']']) := by
  refine ⟨⟨s.toList.flatMap escape, by simp [literalChars], quotes_flatMap_escape s.toList⟩,
    fun c hc => space_le_of_mem_literalChars (toList_literal s ▸ hc),
    (Reader.readsBack_text s).run_print none, text_literal s,
    fun rest value rest' => readsString_literal_iff s, fun t => literal_injective.eq_iff,
    fun t u v => ⟨fun h => ?_, ?_⟩,
    fun settings space definition => ⟨text_entryLine s space definition, ?_, ?_⟩⟩
  · have hl := congrArg String.toList h
    simp only [String.toList_append, toList_literal] at hl
    obtain ⟨hs, hu⟩ := literalChars_append_inj hl
    exact ⟨String.toList_inj.mp hs, String.toList_inj.mp hu⟩
  · rintro ⟨rfl, rfl⟩
    rfl
  · have hp := text_literal s []
    rwa [List.append_nil] at hp
  · refine ⟨literal s ++ "]", String.append_assoc .., ?_⟩
    rw [String.toList_append]
    exact text_literal s [']']

/-- The quote in this text has three backslashes before it, and the last one ends the literal. -/
theorem literal_reads_back_escaped_quote :
    let inner := ['a', '\\', '\\', '\\', '"', '\\', 'n']
    (literal "a\\\"\n").toList = '"' :: (inner ++ ['"']) ∧
      Odd (backslashes ['a', '\\', '\\', '\\']) ∧ 0x20 ≤ '"'.toNat := by
  intro inner
  obtain ⟨⟨inner', hi, -, hodd⟩, hc, -⟩ := literal_reads_back "a\\\"\n"
  have hl : (literal "a\\\"\n").toList = '"' :: (inner ++ ['"']) := by decide
  have hn : inner' = inner := by
    rw [hl] at hi
    exact (List.append_cancel_right (List.cons.inj hi).2).symm
  exact ⟨hl, hodd _ ['\\', 'n'] hn, hc '"' (by decide)⟩

end TypedTag.Text
