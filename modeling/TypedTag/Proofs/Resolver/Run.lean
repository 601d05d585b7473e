import TypedTag.Proofs.Registry.Unambiguous
import TypedTag.Resolver

/-! # Runs of a resolver

A run adds texts and files one after the other, and a step that fails leaves the resolver as it was.
Whatever the steps are, a held source has the named definitions of its own text, which stands there
with its line breaks unified. So what a source stands for is a function of its text.
-/

namespace TypedTag

open Document Files Naming Text

def namedDefinitions (parse : Parser) (namer : Namer) (text : String) : List NamedDefinition :=
  ((parse text).toOption.getD []).filterMap namer.define?

theorem Naming.Namer.resolveText_eq_some_iff {parse : Parser} {namer : Namer} {content : String}
    {path : Option String} {s : HeldSource} :
    namer.resolveText content path parse = .ok (some s) ↔
      s.text = withLineFeeds content ∧ s.path = path ∧
        ∃ ds, parse s.text = .ok ds ∧ ds.filterMap namer.define? = s.definitions := by
  obtain ⟨text, path', d, others⟩ := s
  constructor
  · intro h
    unfold resolveText at h
    cases hp : parse (withLineFeeds content) with
    | error e => simp [hp] at h
    | ok ds =>
      simp only [hp] at h
      split at h
      case h_1 => simp at h
      case h_2 d' ds' hd =>
        cases h
        exact ⟨rfl, rfl, ds, hp, hd⟩
  · rintro ⟨ht, hpath, ds, hp, hd⟩
    obtain rfl : text = withLineFeeds content := ht
    obtain rfl : path' = path := hpath
    have hd : ds.filterMap namer.define? = d :: others := hd
    simp only [resolveText, hp, hd]

namespace Resolver

/-- A source to add. Every file is read from files of its own, which may have changed by then. -/
inductive Step
  | text (content : String) (path : Option String)
  | file (files : FileView) (path : String)

namespace Step

def resolve (parse : Parser) (namer : Namer) : Step → Except ResolveError (Option HeldSource)
  | .text content path => namer.resolveText content path parse
  | .file files path => namer.resolveFile files path parse

def found (parse : Parser) (namer : Namer) (step : Step) : List HeldSource :=
  ((step.resolve parse namer).toOption.getD none).toList

end Step

def attempt (parse : Parser) (r : Resolver) : Step → Except ResolveError Resolver
  | .text content path => r.addText content path parse
  | .file files path => r.addFile files path parse

def advance (parse : Parser) (r : Resolver) (step : Step) : Resolver :=
  (r.attempt parse step).toOption.getD r

def run (parse : Parser) (namer : Namer) (steps : List Step) : Resolver :=
  steps.foldl (advance parse) ⟨namer, []⟩

/-- Tells that every held source has the named definitions of its text. -/
def Faithful (parse : Parser) (r : Resolver) : Prop :=
  ∀ s ∈ r.held, s.definitions = namedDefinitions parse r.namer s.text

variable {parse : Parser} {namer : Namer} {r : Resolver} {s : HeldSource}

theorem attempt_eq_add (parse : Parser) (r : Resolver) (step : Step) :
    r.attempt parse step = r.add (step.resolve parse r.namer) := by
  cases step <;> rfl

theorem advance_eq (parse : Parser) (r : Resolver) (step : Step) :
    r.advance parse step = ⟨r.namer, r.held ++ step.found parse r.namer⟩ := by
  rw [advance, attempt_eq_add, Step.found]
  cases step.resolve parse r.namer with
  | error e => simp [add, Except.map, Except.toOption]
  | ok source => rfl

theorem foldl_advance (parse : Parser) (r : Resolver) (steps : List Step) :
    steps.foldl (advance parse) r = ⟨r.namer, r.held ++ steps.flatMap (·.found parse r.namer)⟩ := by
  induction steps generalizing r with
  | nil => simp
  | cons step steps ih =>
    rw [List.foldl_cons, ih, advance_eq, List.flatMap_cons, List.append_assoc]

theorem run_eq (parse : Parser) (namer : Namer) (steps : List Step) :
    run parse namer steps = ⟨namer, steps.flatMap (·.found parse namer)⟩ := by
  rw [run, foldl_advance, List.nil_append]

theorem definitions_of_resolveText {content : String} {path : Option String}
    (h : namer.resolveText content path parse = .ok (some s)) :
    s.definitions = namedDefinitions parse namer s.text := by
  obtain ⟨-, -, ds, hp, hd⟩ := Namer.resolveText_eq_some_iff.mp h
  rw [namedDefinitions, hp, ← hd]
  rfl

theorem definitions_of_resolveFile {files : FileView} {path : String}
    (h : namer.resolveFile files path parse = .ok (some s)) :
    s.definitions = namedDefinitions parse namer s.text := by
  unfold Namer.resolveFile at h
  split at h
  case h_1 => simp at h
  case h_2 content _ => exact definitions_of_resolveText h

theorem definitions_of_mem_found {step : Step} (h : s ∈ step.found parse namer) :
    s.definitions = namedDefinitions parse namer s.text := by
  have hr : step.resolve parse namer = .ok (some s) := by
    unfold Step.found at h
    cases ho : step.resolve parse namer with
    | error e => simp [ho, Except.toOption] at h
    | ok source =>
      obtain rfl : source = some s := by simpa [ho, Except.toOption] using h
      rfl
  cases step with
  | text content path => exact definitions_of_resolveText hr
  | file files path => exact definitions_of_resolveFile hr

theorem Faithful.advance (h : r.Faithful parse) (step : Step) :
    (r.advance parse step).Faithful parse := by
  rw [advance_eq]
  intro s hs
  rcases List.mem_append.mp hs with hs | hs
  · exact h s hs
  · exact definitions_of_mem_found hs

theorem Faithful.foldl (h : r.Faithful parse) (steps : List Step) :
    (steps.foldl (Resolver.advance parse) r).Faithful parse := by
  induction steps generalizing r with
  | nil => exact h
  | cons step steps ih => exact ih (h.advance step)

theorem faithful_run (parse : Parser) (namer : Namer) (steps : List Step) :
    (run parse namer steps).Faithful parse := by
  have h : (⟨namer, []⟩ : Resolver).Faithful parse := fun s hs => absurd hs List.not_mem_nil
  exact h.foldl steps

/-- The primary definition of a source is known from its text. -/
theorem Faithful.unambiguous (h : r.Faithful parse) : Unambiguous r.sources := by
  intro s hs s' hs' ht
  obtain ⟨a, ha, rfl⟩ := List.mem_map.mp hs
  obtain ⟨b, hb, rfl⟩ := List.mem_map.mp hs'
  have ht : a.text = b.text := ht
  have hd : a.primary :: a.others = b.primary :: b.others := by
    rw [← HeldSource.definitions, ← HeldSource.definitions, h a ha, h b hb, ht]
  obtain ⟨hp, _⟩ := List.cons.inj hd
  simp only [HeldSource.source, hp]

end Resolver

example :
    let parse : Parser := fun text =>
      if text = "\x7b" then .error ⟨⟨1, 1⟩, none⟩ else .ok [.selections, .query (some text)]
    let steps := [.text "x\r\n" none, .text "\x7b" none, .text "x\n" (some "a")]
    (Resolver.run parse {} steps).sources =
      [⟨"x\n", "XDocument"⟩, ⟨"x\n", "XDocument"⟩] := by
  decide

end TypedTag
