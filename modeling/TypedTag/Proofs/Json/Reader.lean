import Mathlib.Data.List.Forall2
import TypedTag.Json.Printer
import TypedTag.Json.Record
import TypedTag.Proofs.Text.Literal

/-! # Reading printed values

A reader reads a value back if it takes the printed value from a text, with any blanks before it,
and leaves what follows. This holds in every layout, because a layout only adds blanks. A list is
read by a loop; it reads every item back and ends at the bracket, so it reads the list back.
-/

namespace TypedTag.Json

open Text

variable {α β σ : Type}

theorem Layout.colon_inner (layout : Layout) : layout.inner.colon = layout.colon := by
  cases layout <;> rfl

namespace Reader

section Sequence

variable {cs cs' : List Char} {a : α}

theorem bind_of_ok {x : Reader α} {f : α → Reader β} (h : x cs = .ok (a, cs')) :
    (x >>= f) cs = f a cs' := by
  change Except.bind _ _ = _
  rw [h]
  rfl

theorem map_of_ok {x : Reader α} (f : α → β) (h : x cs = .ok (a, cs')) :
    (f <$> x) cs = .ok (f a, cs') := by
  change Except.bind _ _ = _
  rw [h]
  rfl

end Sequence

section Loop

/-- A run of a loop from a state and a text to a result and the text that is left. -/
inductive Loops (step : σ → Reader (σ ⊕ α)) : σ → List Char → α → List Char → Prop
  | stop {s : σ} {cs rest : List Char} {a : α} :
      step s cs = .ok (.inr a, rest) → Loops step s cs a rest
  | more {s s' : σ} {cs cs' rest : List Char} {a : α} :
      step s cs = .ok (.inl s', cs') → cs'.length < cs.length → Loops step s' cs' a rest →
      Loops step s cs a rest

variable {step : σ → Reader (σ ⊕ α)} {s : σ} {cs rest : List Char} {a : α}

theorem Loops.repeatStep (h : Loops step s cs a rest) :
    ∀ n, cs.length < n → repeatStep step n s cs = .ok (a, rest) := by
  -- Every step but the last leaves a shorter text, so the number of steps suffices for the rest.
  induction h with
  | stop hs =>
    intro n hn
    obtain ⟨n, rfl⟩ := Nat.exists_eq_succ_of_ne_zero (Nat.ne_zero_of_lt hn)
    rw [Reader.repeatStep, bind_of_ok hs]
    rfl
  | more hs hl _ ih =>
    intro n hn
    obtain ⟨n, rfl⟩ := Nat.exists_eq_succ_of_ne_zero (Nat.ne_zero_of_lt hn)
    rw [Reader.repeatStep, bind_of_ok hs]
    exact ih n (by omega)

/-- No run is cut short by the bound on the steps of a loop. -/
theorem Loops.loop (h : Loops step s cs a rest) : loop step s cs = .ok (a, rest) :=
  h.repeatStep (cs.length + 1) (Nat.lt_succ_self _)

end Loop

section Blanks

def Blank (cs : List Char) : Prop :=
  ∀ c ∈ cs, isSpace c

variable {blanks rest : List Char} {c : Char}

theorem blank_nil : Blank [] := by
  simp [Blank]

theorem blank_lineBreak (layout : Layout) : Blank layout.lineBreak := by
  cases layout with
  | none => exact blank_nil
  | some level => simp [Blank, Layout.lineBreak, isSpace]

/-- Blanks are passed by, the character behind them is only looked at. -/
theorem peek_blanks (hb : Blank blanks) (hc : ¬ isSpace c) :
    peek (blanks ++ c :: rest) = .ok (some c, c :: rest) := by
  have hd : (blanks ++ c :: rest).dropWhile isSpace = c :: rest := by
    rw [List.dropWhile_append_of_pos hb, List.dropWhile_cons_of_neg hc]
  change Except.ok ((List.dropWhile isSpace _).head?, List.dropWhile isSpace _) = _
  rw [hd]
  rfl

theorem advance_cons : advance (c :: rest) = .ok ((), rest) := rfl

theorem string_literalChars (s : String) :
    string (literalChars s.toList ++ rest) = .ok (s, rest) := by
  rw [literalChars_append, string, bind_of_ok advance_cons,
    map_of_ok String.ofList (stringRest_flatMap_escape s.toList rest), String.ofList_toList]

theorem colon_blanks (hb : Blank blanks) : colon (blanks ++ ':' :: rest) = .ok ((), rest) := by
  rw [colon, bind_of_ok (peek_blanks hb (by decide))]
  rfl

theorem exists_colon_eq (layout : Layout) :
    ∃ blanks, Blank blanks ∧ layout.colon = ':' :: blanks := by
  cases layout with
  | none => exact ⟨[], blank_nil, rfl⟩
  | some _ => exact ⟨[' '], by simp [Blank, isSpace], rfl⟩

def separator (first : Bool) : List Char :=
  if first then [] else [',']

def itemBehindComma : Reader Bool := do
  match ← peek with
  | none => throw .endInValue
  | some ']' => throw .trailingComma
  | some _ => return true

theorem anotherItem_comma : anotherItem false (',' :: rest) = itemBehindComma rest := rfl

theorem anotherItem_separator (first : Bool) (hb : Blank blanks) (hc : ¬ isSpace c)
    (hn : c ≠ ']') :
    anotherItem first (separator first ++ blanks ++ c :: rest) = .ok (true, c :: rest) := by
  have hp : peek (blanks ++ c :: rest) = .ok (some c, c :: rest) := peek_blanks hb hc
  cases first with
  | true =>
    change anotherItem true (blanks ++ c :: rest) = _
    rw [anotherItem, bind_of_ok hp]
    simp only [if_true]
    rfl
  | false =>
    change anotherItem false (',' :: (blanks ++ c :: rest)) = _
    rw [anotherItem_comma, itemBehindComma, bind_of_ok hp]
    simp only
    rfl

theorem anotherItem_bracket (first : Bool) (hb : Blank blanks) :
    anotherItem first (blanks ++ ']' :: rest) = .ok (false, ']' :: rest) := by
  rw [anotherItem, bind_of_ok (peek_blanks hb (by decide))]
  rfl

theorem anotherKey?_brace (first : Bool) (hb : Blank blanks) :
    anotherKey? first (blanks ++ '\x7d' :: rest) = .ok (none, '\x7d' :: rest) := by
  rw [anotherKey?, bind_of_ok (peek_blanks hb (by decide))]
  rfl

def keyBehindComma : Reader (Option String) := do
  match ← peek with
  | none => throw .endInValue
  | some '\x7d' => throw .trailingComma
  | some '"' => return some (← string)
  | some _ => throw .keyNotString

theorem anotherKey?_comma : anotherKey? false (',' :: rest) = keyBehindComma rest := rfl

theorem anotherKey?_separator (first : Bool) (hb : Blank blanks) (key : String) :
    anotherKey? first (separator first ++ blanks ++ (literalChars key.toList ++ rest)) =
      .ok (some key, rest) := by
  have hs : (some <$> string) (literalChars key.toList ++ rest) = .ok (some key, rest) :=
    map_of_ok some (string_literalChars key)
  rw [literalChars_append] at hs ⊢
  have hp : peek (blanks ++ '"' :: (key.toList.flatMap escape ++ '"' :: rest)) =
    .ok (some '"', '"' :: (key.toList.flatMap escape ++ '"' :: rest)) := peek_blanks hb (by decide)
  cases first with
  | true =>
    change anotherKey? true (blanks ++ '"' :: _) = _
    rw [anotherKey?, bind_of_ok hp, ← hs]
    rfl
  | false =>
    change anotherKey? false (',' :: (blanks ++ '"' :: _)) = _
    rw [anotherKey?_comma, keyBehindComma, bind_of_ok hp, ← hs]
    rfl

end Blanks

/-- Tells that a reader takes a written value from the front of any text. What is written starts
with a character that is no blank and does not close a list, so a list that holds it goes on. -/
structure Reads (reader : Reader α) (written : List Char) (a : α) : Prop where
  starts : ∃ c cs, written = c :: cs ∧ ¬ isSpace c ∧ c ≠ ']'
  reads : ∀ {blanks : List Char} (rest : List Char), Blank blanks →
    reader (blanks ++ (written ++ rest)) = .ok (a, rest)

def ReadsBack (reader : Reader α) (v : Value) (a : α) : Prop :=
  ∀ layout, Reads reader (v.print layout) a

variable {item reader : Reader α} {v : Value} {vs : List Value} {a : α} {as done : List α}

theorem Reads.length_lt {written : List Char} (h : Reads reader written a)
    (before rest : List Char) : rest.length < (before ++ (written ++ rest)).length := by
  obtain ⟨c, cs, rfl, -, -⟩ := h.starts
  simp only [List.length_append, List.length_cons]
  omega

theorem ReadsBack.map (f : α → β) (h : ReadsBack reader v a) : ReadsBack (f <$> reader) v (f a) :=
  fun layout => ⟨(h layout).starts, fun rest hb => map_of_ok f ((h layout).reads rest hb)⟩

theorem ReadsBack.run_print (h : ReadsBack reader v a) (layout : Layout) :
    reader.run (String.ofList (v.print layout)) = .ok a := by
  have hr : reader (v.print layout) = .ok (a, []) := by
    simpa using (h layout).reads [] blank_nil
  rw [Reader.run, String.toList_ofList]
  change Except.map _ _ = _
  rw [bind_of_ok hr]
  rfl

theorem ReadsBack.run (h : ReadsBack reader v a) : reader.run v.indented = .ok a :=
  h.run_print (some 0)

/-- A step of reading a list. The items that were read are kept in reverse. -/
def itemStep (item : Reader α) (done : List α) : Reader (List α ⊕ List α) := do
  if ← anotherItem done.isEmpty then return .inl ((← item) :: done)
  advance
  return .inr done.reverse

theorem list_bracket (item : Reader α) {blanks : List Char} (rest : List Char) (hb : Blank blanks) :
    list item (blanks ++ '[' :: rest) = loop (itemStep item) [] rest := by
  rw [list, bind_of_ok (peek_blanks hb (by decide))]
  rfl

theorem itemStep_item (h : ReadsBack item v a) (layout : Layout) {blanks : List Char}
    (rest : List Char) (hb : Blank blanks) :
    itemStep item done (separator done.isEmpty ++ blanks ++ (v.print layout ++ rest)) =
      .ok (.inl (a :: done), rest) := by
  obtain ⟨c, cs, hv, hc, hn⟩ := (h layout).starts
  have hi : item (v.print layout ++ rest) = .ok (a, rest) := (h layout).reads rest blank_nil
  rw [hv, List.cons_append] at hi ⊢
  rw [itemStep, bind_of_ok (anotherItem_separator _ hb hc hn)]
  simp only [if_true]
  rw [bind_of_ok hi]
  rfl

theorem itemStep_bracket {blanks : List Char} (rest : List Char) (hb : Blank blanks) :
    itemStep item done (blanks ++ ']' :: rest) = .ok (.inr done.reverse, rest) := by
  rw [itemStep, bind_of_ok (anotherItem_bracket _ hb)]
  rfl

theorem loops_item (h : ReadsBack item v a) (layout : Layout) {blanks cs rest : List Char}
    (hb : Blank blanks) (hl : Loops (itemStep item) (a :: done) cs as rest) :
    Loops (itemStep item) done (separator done.isEmpty ++ blanks ++ (v.print layout ++ cs)) as
      rest :=
  .more (itemStep_item h layout cs hb) ((h layout).length_lt _ cs) hl

theorem loops_printItems (h : List.Forall₂ (ReadsBack item) vs as) (hd : done ≠ [])
    (layout : Layout) {blanks : List Char} (rest : List Char) (hb : Blank blanks) :
    Loops (itemStep item) done (printItems layout vs ++ (blanks ++ ']' :: rest))
      (done.reverse ++ as) rest := by
  induction h generalizing done with
  | nil =>
    rw [printItems, List.append_nil]
    exact .stop (itemStep_bracket rest hb)
  | @cons v a vs as hv _ ih =>
    have hl := loops_item hv layout (blank_lineBreak layout) (ih (List.cons_ne_nil a done))
    rw [List.isEmpty_eq_false_iff.mpr hd] at hl
    simpa [separator, printItems] using hl

theorem ReadsBack.list (h : List.Forall₂ (ReadsBack item) vs as) :
    ReadsBack (list item) (.array vs) as := by
  intro layout
  cases h with
  | nil =>
    refine ⟨⟨'[', _, rfl, by decide, by decide⟩, fun rest hb => ?_⟩
    have hl : Loops (itemStep item) [] (']' :: rest) [] rest :=
      .stop (itemStep_bracket rest blank_nil)
    exact (list_bracket item _ hb).trans hl.loop
  | @cons v a vs as hv hvs =>
    refine ⟨⟨'[', _, rfl, by decide, by decide⟩, fun rest hb => ?_⟩
    -- The first item has no comma before it, the others have one each.
    have hl := loops_item hv layout.inner (blank_lineBreak layout.inner)
      (loops_printItems hvs (List.cons_ne_nil a []) layout.inner rest (blank_lineBreak layout))
    simpa [separator, Value.print] using (list_bracket item _ hb).trans hl.loop

end Reader

end TypedTag.Json
