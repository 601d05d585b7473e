import Mathlib.Data.List.Infix
import Mathlib.Logic.Function.Iterate
import TypedTag.Text.LineBreak

/-! # Line breaks written in two ways

A line feed may stand alone or behind a carriage return. A text with no carriage return before a
line feed is found again when some of its line feeds were given one, whatever returns it has
elsewhere. Where several returns stand before a line feed, unifying the breaks takes away one of
them and leaves a break with the next one.
-/

namespace TypedTag.Text

/-- Puts a carriage return before the line feeds that are chosen. They are chosen in their order,
and those beyond the end of the list are left as they are. -/
def withReturns : List Bool → List Char → List Char
  | _, [] => []
  | chosen, c :: cs =>
    if c = '\n' then
      (if chosen.head? = some true then ['\r', '\n'] else ['\n']) ++ withReturns chosen.tail cs
    else c :: withReturns chosen cs

def BareFeeds (s : List Char) : Prop :=
  ¬ ['\r', '\n'] <:+: s

instance (s : List Char) : Decidable (BareFeeds s) :=
  inferInstanceAs (Decidable (¬ _))

variable {c : Char} {s : List Char}

theorem BareFeeds.tail (h : BareFeeds (c :: s)) : BareFeeds s :=
  fun hs => h (List.infix_cons hs)

theorem BareFeeds.not_feed_behind_return (h : BareFeeds (c :: s)) :
    ¬ (c = '\r' ∧ s.head? = some '\n') := by
  rintro ⟨rfl, hs⟩
  obtain ⟨r, rfl⟩ := List.head?_eq_some_iff.mp hs
  exact h ⟨[], r, rfl⟩

theorem unifyBreaks_cons (h : ¬ (c = '\r' ∧ s.head? = some '\n')) :
    unifyBreaks (c :: s) = c :: unifyBreaks s := by
  rw [unifyBreaks]
  rintro r rfl rfl
  exact h ⟨rfl, rfl⟩

/-- A line feed that comes first was not given a carriage return. -/
theorem head?_of_withReturns {chosen : List Bool} (h : (withReturns chosen s).head? = some '\n') :
    s.head? = some '\n' := by
  cases s with
  | nil => exact h
  | cons c s =>
    by_cases hc : c = '\n'
    · rw [hc, List.head?_cons]
    · simp [withReturns, hc] at h

/-- Unifying the breaks takes away the carriage returns that were put before them, and no other. -/
theorem unifyBreaks_withReturns (h : BareFeeds s) (chosen : List Bool) :
    unifyBreaks (withReturns chosen s) = s := by
  induction s generalizing chosen with
  | nil => rfl
  | cons c s ih =>
    by_cases hc : c = '\n'
    · subst hc
      rw [withReturns, if_pos rfl]
      split
      · exact congrArg ('\n' :: ·) (ih h.tail chosen.tail)
      · rw [List.singleton_append, unifyBreaks_cons (by simp), ih h.tail]
    · have hr : ¬ (c = '\r' ∧ (withReturns chosen s).head? = some '\n') :=
        fun ⟨hr, hs⟩ => h.not_feed_behind_return ⟨hr, head?_of_withReturns hs⟩
      rw [withReturns, if_neg hc, unifyBreaks_cons hr, ih h.tail]

theorem withReturns_nil (s : List Char) : withReturns [] s = s := by
  induction s with
  | nil => rfl
  | cons c s ih =>
    by_cases hc : c = '\n' <;> simp [withReturns, hc, ih]

theorem unifyBreaks_eq_self (h : BareFeeds s) : unifyBreaks s = s := by
  simpa [withReturns_nil] using unifyBreaks_withReturns h []

def returnsFeed (n : Nat) : List Char :=
  List.replicate n '\r' ++ ['\n']

theorem returnsFeed_zero_prefix_iff (s : List Char) :
    returnsFeed 0 <+: s ↔ s.head? = some '\n' := by
  cases s <;> simp [returnsFeed, eq_comm]

theorem returnsFeed_prefix_cons (n : Nat) (c : Char) (s : List Char) :
    returnsFeed (n + 1) <+: c :: s ↔ c = '\r' ∧ returnsFeed n <+: s := by
  rw [returnsFeed, List.replicate_succ, List.cons_append, List.cons_prefix_cons, eq_comm,
    returnsFeed]

theorem head?_ne_feed (h : ∀ r, c = '\r' → s = '\n' :: r → False) (hc : c = '\r') :
    s.head? ≠ some '\n' := by
  intro hs
  obtain ⟨r, rfl⟩ := List.head?_eq_some_iff.mp hs
  exact h r hc rfl

/-- A row of returns at the start of a text loses the one that stands before the line feed. -/
theorem returnsFeed_prefix_unifyBreaks (n : Nat) (h : s.head? ≠ some '\n') :
    returnsFeed n <+: unifyBreaks s ↔ returnsFeed (n + 1) <+: s := by
  fun_induction unifyBreaks s generalizing n with
  | case1 s ih =>
    cases n with
    | zero => simp [returnsFeed_prefix_cons, returnsFeed_zero_prefix_iff]
    | succ n => simp [returnsFeed_prefix_cons]
  | case2 c s hc ih =>
    cases n with
    | zero =>
      rw [returnsFeed_zero_prefix_iff, returnsFeed_prefix_cons, returnsFeed_zero_prefix_iff]
      exact iff_of_false h fun ⟨hr, hf⟩ => head?_ne_feed hc hr hf
    | succ n =>
      rw [returnsFeed_prefix_cons, returnsFeed_prefix_cons]
      exact and_congr_right fun hr => ih n (head?_ne_feed hc hr)
  | case3 => simp [returnsFeed]

theorem returnsFeed_infix_unifyBreaks (n : Nat) (s : List Char) :
    returnsFeed (n + 1) <:+: unifyBreaks s ↔ returnsFeed (n + 2) <:+: s := by
  fun_induction unifyBreaks s with
  | case1 s ih => simp [List.infix_cons_iff, returnsFeed_prefix_cons, ih]
  | case2 c s hc ih =>
    rw [List.infix_cons_iff, List.infix_cons_iff, ih, returnsFeed_prefix_cons,
      returnsFeed_prefix_cons]
    exact or_congr_left (and_congr_right fun hr =>
      returnsFeed_prefix_unifyBreaks n (head?_ne_feed hc hr))
  | case3 => simp [returnsFeed]

theorem returnsFeed_infix_iterate (n k : Nat) (s : List Char) :
    returnsFeed (k + 1) <:+: unifyBreaks^[n] s ↔ returnsFeed (n + k + 1) <:+: s := by
  induction n generalizing s with
  | zero => rw [Function.iterate_zero_apply, Nat.zero_add]
  | succ n ih =>
    rw [Function.iterate_succ_apply, ih, returnsFeed_infix_unifyBreaks, Nat.add_right_comm n 1 k]

/-- After a number of rounds there is no break left to unify if no line feed had more returns
before it. -/
theorem bareFeeds_iterate_iff (n : Nat) (s : List Char) :
    BareFeeds (unifyBreaks^[n] s) ↔ ¬ returnsFeed (n + 1) <:+: s :=
  not_congr (returnsFeed_infix_iterate n 0 s)

theorem unifyBreaks_eq_self_iff : unifyBreaks s = s ↔ BareFeeds s := by
  refine ⟨fun h hs => ?_, unifyBreaks_eq_self⟩
  -- Otherwise a row of returns before a line feed would have no end.
  have grows (n : Nat) : returnsFeed (n + 1) <:+: s := by
    induction n with
    | zero => exact hs
    | succ n ih => rwa [← returnsFeed_infix_unifyBreaks, h]
  have hl := (grows s.length).length_le
  rw [returnsFeed, List.length_append, List.length_replicate] at hl
  omega

theorem withLineFeeds_eq_self_iff (text : String) :
    withLineFeeds text = text ↔ BareFeeds text.toList := by
  rw [← unifyBreaks_eq_self_iff, withLineFeeds, ← String.toList_inj, String.toList_ofList]

theorem bareFeeds_withLineFeeds_iff (text : String) :
    BareFeeds (withLineFeeds text).toList ↔ ¬ returnsFeed 2 <:+: text.toList := by
  rw [withLineFeeds, String.toList_ofList]
  exact bareFeeds_iterate_iff 1 text.toList

end TypedTag.Text
