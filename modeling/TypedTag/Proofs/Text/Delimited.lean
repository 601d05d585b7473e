import Mathlib.Data.List.Basic

/-! # Self-delimiting pieces of a text

A piece of a text is self-delimiting if what follows it does not change where it ends. A sequence of
such pieces can be read back up to a text that starts with none of them. A line is delimited by the
line break behind it.
-/

namespace TypedTag.Text

variable {α β : Type}

theorem append_cons_inj {a : β} {u v : List β} : ∀ {x y : List β}, a ∉ x → a ∉ y →
    x ++ a :: u = y ++ a :: v → x = y ∧ u = v
  | [], [], _, _, h => ⟨rfl, (List.cons.inj h).2⟩
  | [], b :: y, _, hy, h => absurd ((List.cons.inj h).1 ▸ List.mem_cons_self) hy
  | b :: x, [], hx, _, h => absurd ((List.cons.inj h).1 ▸ List.mem_cons_self) hx
  | b :: x, c :: y, hx, hy, h => by
    obtain ⟨hb, ht⟩ := List.cons.inj h
    obtain ⟨hxy, huv⟩ := append_cons_inj (fun h => hx (List.mem_cons_of_mem _ h))
      (fun h => hy (List.mem_cons_of_mem _ h)) ht
    exact ⟨by rw [hb, hxy], huv⟩

theorem append_eq_append_cons_iff {a : β} {x y l r : List β} (h : a ∉ x) :
    x ++ y = l ++ a :: r ↔ ∃ m, l = x ++ m ∧ y = m ++ a :: r := by
  constructor
  · intro he
    rcases List.append_eq_append_iff.mp he with ⟨m, hl, hy⟩ | ⟨m, hx, hr⟩
    · exact ⟨m, hl, hy⟩
    · -- Otherwise the mark stands in the piece, unless the piece ends right before it.
      cases m with
      | nil => exact ⟨[], by simpa using hx.symm, by simpa using hr.symm⟩
      | cons b m =>
        obtain ⟨rfl, -⟩ := List.cons.inj hr
        exact absurd (hx ▸ List.mem_append_right _ List.mem_cons_self) h
  · rintro ⟨m, rfl, rfl⟩
    exact (List.append_assoc x m (a :: r)).symm

theorem mem_intercalate_singleton {a b : α} {ls : List (List α)} (h : b ∈ [a].intercalate ls) :
    b = a ∨ ∃ l ∈ ls, b ∈ l := by
  induction ls with
  | nil => simp at h
  | cons l ls ih =>
    by_cases hn : ls = []
    · subst hn
      exact .inr ⟨l, List.mem_cons_self, by simpa using h⟩
    · rw [List.intercalate_cons_of_ne_nil hn, List.append_assoc, List.mem_append,
        List.singleton_append, List.mem_cons] at h
      rcases h with h | rfl | h
      · exact .inr ⟨l, List.mem_cons_self, h⟩
      · exact .inl rfl
      · obtain h | ⟨m, hm, h⟩ := ih h
        · exact .inl h
        · exact .inr ⟨m, List.mem_cons_of_mem _ hm, h⟩

/-- What a separator divides is put together from the pieces between the separators. -/
theorem apply_intercalate {f : List α → List β} {a : α} (hnil : f [] = [])
    (happend : ∀ x y, f (x ++ a :: y) = f x ++ f y) (ls : List (List α)) :
    f ([a].intercalate ls) = ls.flatMap f := by
  induction ls with
  | nil => exact hnil
  | cons l ls ih =>
    by_cases hn : ls = []
    · simp [hn]
    · rw [List.intercalate_cons_of_ne_nil hn, List.append_assoc, List.singleton_append, happend,
        ih, List.flatMap_cons]

/-- Items that are written as self-delimiting pieces are known from the text they make, if that goes
on with something that no piece starts. -/
theorem flatMap_append_inj {write : α → List β} {p : α → Prop}
    (piece : ∀ {a b u v}, p a → p b → write a ++ u = write b ++ v → a = b ∧ u = v)
    {xs ys : List α} {u v : List β} (hx : ∀ a ∈ xs, p a) (hy : ∀ a ∈ ys, p a)
    (hu : ∀ a w, u ≠ write a ++ w) (hv : ∀ a w, v ≠ write a ++ w)
    (h : xs.flatMap write ++ u = ys.flatMap write ++ v) : xs = ys ∧ u = v := by
  induction xs generalizing ys with
  | nil =>
    cases ys with
    | nil => exact ⟨rfl, h⟩
    | cons b ys =>
      rw [List.flatMap_nil, List.nil_append, List.flatMap_cons, List.append_assoc] at h
      exact absurd h (hu b _)
  | cons a xs ih =>
    cases ys with
    | nil =>
      rw [List.flatMap_nil, List.nil_append, List.flatMap_cons, List.append_assoc] at h
      exact absurd h.symm (hv a _)
    | cons b ys =>
      rw [List.flatMap_cons, List.flatMap_cons, List.append_assoc, List.append_assoc] at h
      rw [List.forall_mem_cons] at hx hy
      obtain ⟨rfl, hr⟩ := piece hx.1 hy.1 h
      obtain ⟨rfl, rfl⟩ := ih hx.2 hy.2 hr
      exact ⟨rfl, rfl⟩

def terminated (line : String) : List Char :=
  line.toList ++ ['\n']

theorem intercalate_append_eq_flatMap {sep : List β} {ls : List (List β)} (h : ls ≠ []) :
    sep.intercalate ls ++ sep = ls.flatMap (· ++ sep) := by
  induction ls with
  | nil => exact absurd rfl h
  | cons l ls ih =>
    cases ls with
    | nil => simp
    | cons m ls => simp [ih (List.cons_ne_nil m ls)]

end TypedTag.Text
