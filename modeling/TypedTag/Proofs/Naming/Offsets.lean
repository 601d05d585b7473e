import Mathlib.Data.List.Induction
import TypedTag.Proofs.Naming.Splitting

/-! # Words by their offsets

The words of a name can be found in one pass over its characters that keeps only the octet at which
an open word starts, and cuts the words out of the name by octets. The pass looks back at the
character before and ahead at the next one. It never looks back from the first character, it never
cuts inside a character or from a later octet to an earlier one, and it finds the words of the name.
-/

namespace TypedTag.Naming

open Text

def octets (cs : List Char) : Nat :=
  (String.ofList cs).utf8ByteSize

/-- The characters of a text, each with the octet at which it starts. -/
def offsets (offset : Nat) : List Char → List (Nat × Char)
  | [] => []
  | c :: cs => (offset, c) :: offsets (offset + c.utf8Size) cs

/-- The text from one octet up to another, if a character starts or the text ends at each of them
and they are in order. -/
def slice? (name : String) (start stop : Nat) : Option String := do
  let first ← name.pos? ⟨start⟩
  let last ← name.pos? ⟨stop⟩
  let slice ← name.slice? first last
  return slice.copy

def lookBehind? (chars : List (Nat × Char)) : Nat → Option Char
  | 0 => none
  | i + 1 => chars[i]?.map (·.2)

/-- The words that were cut out so far, and the octet at which an open word starts. -/
structure Scan where
  words : List String := []
  start? : Option Nat := none

/-- Looks at the character of a position. There is no result if it cannot be looked at, if a
character before it is missed, or if a word cannot be cut out. -/
def Scan.step? (name : String) (chars : List (Nat × Char)) (scan : Scan) (i : Nat) :
    Option Scan := do
  let (offset, c) ← chars[i]?
  match isAlphanumeric c, scan.start? with
  | false, none => return scan
  | false, some start =>
    let word ← slice? name start offset
    return { words := scan.words ++ [word] }
  | true, none => return { scan with start? := some offset }
  | true, some start =>
    let prev ← lookBehind? chars i
    if startsWord prev c (chars[i + 1]?.map (·.2)) then
      let word ← slice? name start offset
      return { words := scan.words ++ [word], start? := some offset }
    else return scan

def scan? (name : String) : Option (List String) := do
  let chars := offsets 0 name.toList
  let scan ← (List.range chars.length).foldlM (Scan.step? name chars) {}
  match scan.start? with
  | none => return scan.words
  | some start =>
    let word ← slice? name start name.utf8ByteSize
    return scan.words ++ [word]

section Octets

variable {name : String} {l r w : List Char} {c : Char}

theorem octets_append (l r : List Char) : octets (l ++ r) = octets l + octets r := by
  rw [octets, String.ofList_append, String.utf8ByteSize_append]
  rfl

theorem octets_cons (c : Char) (cs : List Char) : octets (c :: cs) = c.utf8Size + octets cs := by
  rw [← List.singleton_append, octets_append, octets, ← String.singleton_eq_ofList,
    String.utf8ByteSize_singleton]

theorem length_offsets (n : Nat) (cs : List Char) : (offsets n cs).length = cs.length := by
  induction cs generalizing n with
  | nil => rfl
  | cons c cs ih => rw [offsets, List.length_cons, List.length_cons, ih]

theorem getElem?_offsets (n : Nat) (l r : List Char) :
    (offsets n (l ++ r))[l.length]? = r.head?.map fun c => (n + octets l, c) := by
  induction l generalizing n with
  | nil => cases r <;> rfl
  | cons c l ih =>
    rw [List.cons_append, offsets, List.length_cons, List.getElem?_cons_succ, ih, octets_cons,
      Nat.add_assoc]

theorem lookBehind?_offsets (l r : List Char) (c : Char) :
    lookBehind? (offsets 0 (l ++ [c] ++ r)) (l ++ [c]).length = some c := by
  have hc := getElem?_offsets 0 l (c :: r)
  rw [← List.singleton_append, ← List.append_assoc] at hc
  rw [List.length_append, List.length_singleton, lookBehind?, hc]
  rfl

theorem exists_pos? (h : name.toList = l ++ r) :
    ∃ p, name.pos? ⟨octets l⟩ = some p ∧ p.Splits (String.ofList l) (String.ofList r) := by
  have hn : name = String.ofList l ++ String.ofList r := by
    rw [← String.ofList_append, ← h, String.ofList_toList]
  have hv : String.Pos.Raw.IsValid name ⟨octets l⟩ :=
    String.Pos.Raw.isValid_iff_exists_append.mpr ⟨_, _, hn, rfl⟩
  have hs : String.Pos.Raw.isValidForSlice name.toSlice ⟨octets l⟩ :=
    String.Pos.Raw.isValidForSlice_eq_true_iff.mpr
      (String.Pos.Raw.isValidForSlice_toSlice_iff.mpr hv)
  refine ⟨name.pos ⟨octets l⟩ hv, ?_, ⟨hn, rfl⟩⟩
  rw [String.pos?, String.Slice.pos?, dif_pos hs]
  rfl

theorem slice?_append (h : name.toList = l ++ w ++ r) :
    slice? name (octets l) (octets (l ++ w)) = some (String.ofList w) := by
  obtain ⟨first, hf, hfs⟩ := exists_pos? (l := l) (r := w ++ r) (by rw [h, List.append_assoc])
  obtain ⟨last, hl, hls⟩ := exists_pos? h
  rw [String.ofList_append] at hfs hls
  obtain ⟨hle, hc⟩ := String.copy_slice_eq_iff_splits.mpr ⟨_, _, hfs, hls⟩
  simp [slice?, hf, hl, String.slice?, hle, hc]

end Octets

section Pass

variable {name : String} {l w suf : List Char} {c : Char} {scan : Scan}

/-- Tells that the characters of an open word are one word so far, whatever it goes on with. -/
def Joined (w suf : List Char) : Prop :=
  ∀ a c d b, w = a ++ c :: d :: b → joins c (d :: (b ++ suf))

/-- What is known of a pass that has come to the end of `l ++ w` in a name that goes on with `suf`:
`w` is the open word, and the words of what is left to do are those not cut out yet. -/
structure Reached (name : String) (l w suf : List Char) (scan : Scan) : Prop where
  toList_eq : name.toList = l ++ w ++ suf
  start?_eq : scan.start? = if w = [] then none else some (octets l)
  alphanumeric : ∀ c ∈ w, isAlphanumeric c
  joined : Joined w suf
  words_eq : words name.toList = scan.words.map String.toList ++ words (w ++ suf)

theorem joined_nil (suf : List Char) : Joined [] suf := by
  intro a c d b h
  simp at h

theorem joined_singleton (c : Char) (suf : List Char) : Joined [c] suf := by
  intro a d e b h
  have hl := congrArg List.length h
  simp only [List.length_append, List.length_cons, List.length_nil] at hl
  omega

theorem Joined.append_singleton {v : List Char} {p : Char} (h : Joined (v ++ [p]) (c :: suf))
    (hj : joins p (c :: suf)) : Joined (v ++ [p] ++ [c]) suf := by
  intro a d e b hw
  rcases List.eq_nil_or_concat' b with rfl | ⟨b, e', rfl⟩
  · have hd : v ++ [p] ++ [c] = a ++ [d] ++ [e] := by simpa using hw
    obtain ⟨hv, hc⟩ := List.append_inj' hd rfl
    obtain ⟨-, hp⟩ := List.append_inj' hv rfl
    obtain rfl := List.singleton_inj.mp hp
    obtain rfl := List.singleton_inj.mp hc
    exact hj
  · have hd : v ++ [p] ++ [c] = (a ++ d :: e :: b) ++ [e'] := by simpa using hw
    obtain ⟨hv, hc⟩ := List.append_inj' hd rfl
    obtain rfl := List.singleton_inj.mp hc
    simpa using h a d e b hv

namespace Reached

theorem skip (h : Reached name l [] (c :: suf) scan) (hc : isAlphanumeric c = false) :
    Reached name (l ++ [c]) [] suf scan where
  toList_eq := by simpa using h.toList_eq
  start?_eq := h.start?_eq
  alphanumeric := h.alphanumeric
  joined := joined_nil suf
  words_eq := by simpa [words_cons_sign hc] using h.words_eq

theorem opens (h : Reached name l [] (c :: suf) scan) (hc : isAlphanumeric c) :
    Reached name l [c] suf { scan with start? := some (octets l) } where
  toList_eq := by simpa using h.toList_eq
  start?_eq := by simp
  alphanumeric := by simpa using hc
  joined := joined_singleton c suf
  words_eq := by simpa using h.words_eq

section Open

variable {v : List Char} {p : Char}

theorem extend (h : Reached name l (v ++ [p]) (c :: suf) scan) (hc : isAlphanumeric c)
    (hj : joins p (c :: suf)) : Reached name l (v ++ [p] ++ [c]) suf scan where
  toList_eq := by simpa using h.toList_eq
  start?_eq := by simpa using h.start?_eq
  alphanumeric := by
    intro d hd
    rcases List.mem_append.mp hd with hd | hd
    · exact h.alphanumeric d hd
    · exact List.mem_singleton.mp hd ▸ hc
  joined := h.joined.append_singleton hj
  words_eq := by simpa using h.words_eq

theorem close (h : Reached name l (v ++ [p]) suf scan) (hj : joins p suf = false) :
    Reached name (l ++ (v ++ [p])) [] suf
      { words := scan.words ++ [String.ofList (v ++ [p])] } where
  toList_eq := by simpa using h.toList_eq
  start?_eq := rfl
  alphanumeric := by simp
  joined := joined_nil suf
  words_eq := by
    have hw : words (v ++ [p] ++ suf) = (v ++ [p]) :: words suf := by
      refine words_append_of_joined (by simp) h.alphanumeric (fun h' => h.joined _ _ _ _ h') ?_
      intro a c hw
      obtain ⟨-, hc⟩ := List.append_inj' hw rfl
      rwa [← List.singleton_inj.mp hc]
    rw [h.words_eq, hw]
    simp

theorem slice?_eq (h : Reached name l w suf scan) :
    slice? name (octets l) (octets (l ++ w)) = some (String.ofList w) :=
  slice?_append h.toList_eq

end Open

theorem step (h : Reached name l w (c :: suf) scan) :
    ∃ l' w' scan', Scan.step? name (offsets 0 name.toList) scan (l ++ w).length = some scan' ∧
      l' ++ w' = l ++ w ++ [c] ∧ Reached name l' w' suf scan' := by
  have hc : (offsets 0 name.toList)[(l ++ w).length]? = some (octets (l ++ w), c) := by
    rw [h.toList_eq, getElem?_offsets, Nat.zero_add]
    rfl
  have hn : (offsets 0 name.toList)[(l ++ w).length + 1]?.map (·.2) = suf.head? := by
    have hs := getElem?_offsets 0 (l ++ w ++ [c]) suf
    rw [List.append_assoc (l ++ w), List.singleton_append, ← h.toList_eq, List.length_append] at hs
    rw [← List.length_singleton (a := c), hs]
    cases suf <;> rfl
  rw [Scan.step?, hc]
  simp only [Option.bind_eq_bind, Option.bind_some, hn, h.start?_eq]
  rcases List.eq_nil_or_concat' w with rfl | ⟨v, p, rfl⟩
  · rw [if_pos rfl, List.append_nil]
    cases ha : isAlphanumeric c with
    | false => exact ⟨l ++ [c], [], scan, rfl, List.append_nil _, h.skip ha⟩
    | true => exact ⟨l, [c], _, rfl, rfl, h.opens ha⟩
  · have hb : lookBehind? (offsets 0 name.toList) (l ++ (v ++ [p])).length = some p := by
      rw [h.toList_eq, ← List.append_assoc]
      exact lookBehind?_offsets (l ++ v) (c :: suf) p
    rw [if_neg (by simp)]
    cases ha : isAlphanumeric c with
    | false =>
      have hj : joins p (c :: suf) = false := by simp [joins, ha]
      exact ⟨_, [], _, by simp [h.slice?_eq], List.append_nil _, (h.close hj).skip ha⟩
    | true =>
      simp only [hb, Option.bind_some, h.slice?_eq]
      cases hs : startsWord p c suf.head? with
      | false =>
        have hj : joins p (c :: suf) := by simp [joins, ha, hs]
        exact ⟨l, v ++ [p] ++ [c], scan, rfl, by simp, h.extend ha hj⟩
      | true =>
        have hj : joins p (c :: suf) = false := by simp [joins, hs]
        exact ⟨_, [c], _, rfl, rfl, (h.close hj).opens ha⟩

theorem run (pre suf : List Char) (hn : name.toList = pre ++ suf) :
    ∃ l w scan, l ++ w = pre ∧ Reached name l w suf scan ∧
      (List.range pre.length).foldlM (Scan.step? name (offsets 0 name.toList)) {} = some scan := by
  induction pre using List.reverseRecOn generalizing suf with
  | nil =>
    exact ⟨[], [], {}, rfl, ⟨hn, rfl, by simp, joined_nil suf, by simp [hn]⟩, rfl⟩
  | append_singleton pre c ih =>
    obtain ⟨l, w, scan, rfl, h, hr⟩ := ih (c :: suf) (by simpa using hn)
    obtain ⟨l', w', scan', hs, hlw, h'⟩ := h.step
    refine ⟨l', w', scan', hlw, h', ?_⟩
    rw [List.length_append, List.length_singleton, List.range_succ, List.foldlM_append, hr]
    simpa using hs

end Reached

theorem Reached.map_ofList_words (h : Reached name l [] [] scan) :
    (words name.toList).map String.ofList = scan.words := by
  rw [h.words_eq]
  simp [words]

/-- The pass never fails, and it finds the words of the name. -/
theorem scan?_eq (name : String) : scan? name = some ((words name.toList).map String.ofList) := by
  obtain ⟨l, w, scan, hlw, h, hr⟩ :=
    Reached.run name.toList [] (List.append_nil name.toList).symm
  rw [scan?, length_offsets, hr]
  simp only [Option.bind_eq_bind, Option.bind_some, h.start?_eq]
  rcases List.eq_nil_or_concat' w with rfl | ⟨v, p, rfl⟩
  · exact congrArg some h.map_ofList_words.symm
  · have hs : slice? name (octets l) name.utf8ByteSize = some (String.ofList (v ++ [p])) := by
      rw [← h.slice?_eq, hlw, octets, octets, String.ofList_toList]
    rw [if_neg (by simp), (h.close rfl).map_ofList_words]
    simp [hs]

end Pass

end TypedTag.Naming
