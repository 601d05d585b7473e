/-! # Results in order

Each element of a list has at most one result, and what is gathered are the results in the order of
their elements. The elements without a result leave nothing behind.
-/

namespace TypedTag

inductive Gathers {α β : Type} (R : α → β → Prop) : List α → List β → Prop
  | nil : Gathers R [] []
  | take {a b as bs} : R a b → Gathers R as bs → Gathers R (a :: as) (b :: bs)
  | skip {a as bs} : (∀ b, ¬ R a b) → Gathers R as bs → Gathers R (a :: as) bs

namespace Gathers

variable {α β γ : Type} {R : α → β → Prop} {as : List α} {bs bs' : List β}

theorem nil_of_forall_not (h : ∀ a ∈ as, ∀ b, ¬ R a b) : Gathers R as [] := by
  induction as with
  | nil => exact .nil
  | cons a as ih =>
    exact .skip (h a List.mem_cons_self) (ih fun a ha => h a (List.mem_cons_of_mem _ ha))

theorem eq_nil_iff (h : Gathers R as bs) : bs = [] ↔ ∀ a ∈ as, ∀ b, ¬ R a b := by
  induction h with
  | nil => simp
  | @take a b _ _ hab _ _ =>
    refine ⟨fun hn => absurd hn (List.cons_ne_nil _ _), fun hn => ?_⟩
    exact absurd hab (hn a List.mem_cons_self b)
  | skip hn _ ih =>
    rw [ih, List.forall_mem_cons]
    exact (and_iff_right hn).symm

theorem exists_of_mem {b : β} (h : Gathers R as bs) (hb : b ∈ bs) : ∃ a ∈ as, R a b := by
  induction h with
  | nil => cases hb
  | @take a _ _ _ hab _ ih =>
    rcases List.mem_cons.mp hb with rfl | hb
    · exact ⟨a, List.mem_cons_self, hab⟩
    · obtain ⟨a, ha, hr⟩ := ih hb
      exact ⟨a, List.mem_cons_of_mem _ ha, hr⟩
  | skip _ _ ih =>
    obtain ⟨a, ha, hr⟩ := ih hb
    exact ⟨a, List.mem_cons_of_mem _ ha, hr⟩

theorem unique (hf : ∀ a b b', R a b → R a b' → b = b') (h : Gathers R as bs)
    (h' : Gathers R as bs') : bs = bs' := by
  induction h generalizing bs' with
  | nil =>
    cases h'
    rfl
  | take hab _ ih =>
    cases h' with
    | take hab' h' => rw [hf _ _ _ hab hab', ih h']
    | skip hn _ => exact absurd hab (hn _)
  | skip hn _ ih =>
    cases h' with
    | take hab' _ => exact absurd hab' (hn _)
    | skip _ h' => exact ih h'

theorem imp {S : α → γ → Prop} {g : β → γ} (hs : ∀ a b, R a b → S a (g b))
    (hr : ∀ a c, S a c → ∃ b, R a b) (h : Gathers R as bs) : Gathers S as (bs.map g) := by
  induction h with
  | nil => exact .nil
  | take hab _ ih => exact .take (hs _ _ hab) ih
  | skip hn _ ih =>
    refine .skip (fun c hc => ?_) ih
    obtain ⟨b, hb⟩ := hr _ c hc
    exact hn b hb

/-- A relation that is decided by a function is gathered by mapping that function. -/
theorem filterMap {f : α → Option β} (h : ∀ a b, f a = some b ↔ R a b) (as : List α) :
    Gathers R as (as.filterMap f) := by
  induction as with
  | nil => exact .nil
  | cons a as ih =>
    cases hf : f a with
    | none =>
      rw [List.filterMap_cons_none hf]
      refine .skip (fun b hb => ?_) ih
      rw [(h a b).mpr hb] at hf
      cases hf
    | some b =>
      rw [List.filterMap_cons_some hf]
      exact .take ((h a b).mp hf) ih

theorem flatMap {f : α → List β} (h : ∀ a, (f a).length ≤ 1) (as : List α) :
    Gathers (fun a b => f a = [b]) as (as.flatMap f) := by
  induction as with
  | nil => exact .nil
  | cons a as ih =>
    rw [List.flatMap_cons]
    match hf : f a, h a with
    | [], _ => exact .skip (by simp [hf]) ih
    | [b], _ => exact .take hf ih

end Gathers

end TypedTag
