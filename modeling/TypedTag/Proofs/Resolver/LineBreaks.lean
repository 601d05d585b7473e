import TypedTag.GeneratedModule
import TypedTag.Proofs.Resolver.Run
import TypedTag.Proofs.Text.LineBreak

/-! # Runs over texts with other line breaks

A run depends on its steps only by what they resolve to, and a step looks at its text only after the
line breaks are unified. So texts whose line breaks are written in different ways cannot be told
apart, neither step by step nor by the sources that are held in the end.
-/

namespace TypedTag.Resolver

open Document Naming Text

/-- The outcomes of the steps of a run. Each step is tried on the resolver that those before it
leave. -/
def outcomes (parse : Parser) (r : Resolver) : List Step → List (Except ResolveError Resolver)
  | [] => []
  | step :: steps => r.attempt parse step :: outcomes parse (r.advance parse step) steps

variable {parse : Parser} {namer : Namer} {r : Resolver} {step step' : Step}
  {steps steps' : List Step}

theorem advance_congr (h : step.resolve parse r.namer = step'.resolve parse r.namer) :
    r.advance parse step = r.advance parse step' := by
  rw [advance, advance, attempt_eq_add, attempt_eq_add, h]

theorem namer_advance (parse : Parser) (r : Resolver) (step : Step) :
    (r.advance parse step).namer = r.namer := by
  rw [advance_eq]

theorem outcomes_congr
    (h : steps.map (·.resolve parse r.namer) = steps'.map (·.resolve parse r.namer)) :
    outcomes parse r steps = outcomes parse r steps' := by
  induction steps generalizing r steps' with
  | nil =>
    obtain rfl : steps' = [] := by simpa using h.symm
    rfl
  | cons step steps ih =>
    cases steps' with
    | nil => simp at h
    | cons step' steps' =>
      obtain ⟨hs, ht⟩ := List.cons.inj h
      change step.resolve parse r.namer = step'.resolve parse r.namer at hs
      rw [← namer_advance parse r step] at ht
      rw [outcomes, outcomes, attempt_eq_add, attempt_eq_add, hs, ← advance_congr hs, ih ht]

theorem run_congr
    (h : steps.map (·.resolve parse namer) = steps'.map (·.resolve parse namer)) :
    run parse namer steps = run parse namer steps' := by
  have hf (step : Step) : step.found parse namer =
      ((step.resolve parse namer).toOption.getD none).toList := rfl
  have hm := congrArg (List.flatMap fun o => (o.toOption.getD none).toList) h
  rw [List.flatMap_map, List.flatMap_map] at hm
  rw [run_eq, run_eq]
  exact congrArg (Resolver.mk namer) hm

/-- A text to add, and the line feeds in it that are given a carriage return. -/
structure Respelling where
  text : String
  path : Option String
  chosen : List Bool

namespace Respelling

def plain (x : Respelling) : Step :=
  .text x.text x.path

def respelled (x : Respelling) : Step :=
  .text (String.ofList (withReturns x.chosen x.text.toList)) x.path

theorem resolve_respelled {x : Respelling} (h : BareFeeds x.text.toList) :
    x.respelled.resolve parse namer = x.plain.resolve parse namer := by
  have ht : withLineFeeds (String.ofList (withReturns x.chosen x.text.toList)) =
      withLineFeeds x.text := by
    rw [withLineFeeds, withLineFeeds, String.toList_ofList, unifyBreaks_withReturns h,
      unifyBreaks_eq_self h]
  simp only [respelled, plain, Step.resolve, Namer.resolveText, ht]

theorem map_resolve_respelled {xs : List Respelling} (h : ∀ x ∈ xs, BareFeeds x.text.toList) :
    (xs.map respelled).map (·.resolve parse namer) =
      (xs.map plain).map (·.resolve parse namer) := by
  rw [List.map_map, List.map_map]
  exact List.map_congr_left fun x hx => resolve_respelled (h x hx)

end Respelling

/-- Whether the line feeds of the texts of a run have a carriage return before them makes no
difference. Every step ends in the same way, be it with a source, with none or with an error and its
place, and the sources and the module generated from them are the same. -/
theorem run_independent_of_line_breaks (parse : Parser) (namer : Namer) (xs : List Respelling)
    (h : ∀ x ∈ xs, BareFeeds x.text.toList) :
    let plain := xs.map Respelling.plain
    let respelled := xs.map Respelling.respelled
    outcomes parse ⟨namer, []⟩ respelled = outcomes parse ⟨namer, []⟩ plain ∧
    run parse namer respelled = run parse namer plain ∧
    ∀ settings, (GeneratedModule.ofSources settings (run parse namer respelled).sources).content =
      (GeneratedModule.ofSources settings (run parse namer plain).sources).content := by
  intro plain respelled
  have hr : run parse namer respelled = run parse namer plain :=
    run_congr (Respelling.map_resolve_respelled h)
  exact ⟨outcomes_congr (Respelling.map_resolve_respelled h), hr, fun settings => by rw [hr]⟩

/-- A carriage return that stands elsewhere stays, and those before line feeds leave no trace, also
where the text is no document. -/
theorem run_of_respelled_texts :
    let xs : List Respelling :=
      [⟨"query A \x7b\r a\n\x7d\n", none, [false, true]⟩, ⟨"\x7b\r a\n", some "p", [true]⟩,
       ⟨"fragment B on C \x7b b \x7d\n", none, [true]⟩]
    (∀ x ∈ xs, BareFeeds x.text.toList) ∧
    outcomes definitions ⟨{}, []⟩ (xs.map Respelling.respelled) =
      outcomes definitions ⟨{}, []⟩ (xs.map Respelling.plain) ∧
    (run definitions {} (xs.map Respelling.respelled)).sources =
      [⟨"query A \x7b\r a\n\x7d\n", "ADocument"⟩,
       ⟨"fragment B on C \x7b b \x7d\n", "BFragmentDoc"⟩] := by
  intro xs
  have hx : ∀ x ∈ xs, BareFeeds x.text.toList := by decide
  obtain ⟨ho, hr, _⟩ := run_independent_of_line_breaks definitions {} xs hx
  exact ⟨hx, ho, by rw [hr]; decide +kernel⟩

end TypedTag.Resolver
