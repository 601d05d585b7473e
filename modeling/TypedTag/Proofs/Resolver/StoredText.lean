import TypedTag.Proofs.Resolver.Run
import TypedTag.Proofs.Text.LineBreak

/-! # Stored texts that are added again

The text of a held source is the key under which its document is found. Adding it again gives the
same source if unifying its line breaks leaves it as it is. That fails for the texts in which a line
feed had more than one carriage return before it: one of these is still there in the stored text.
-/

namespace TypedTag

open Document Naming Text

variable {parse : Parser} {namer : Namer} {content : String} {path : Option String} {s : HeldSource}

namespace Resolver

theorem addText_eq_ok_iff {held : List HeldSource} :
    (⟨namer, held⟩ : Resolver).addText content path parse = .ok ⟨namer, held ++ [s]⟩ ↔
      namer.resolveText content path parse = .ok (some s) := by
  rw [addText, add]
  cases namer.resolveText content path parse with
  | error e => simp [Except.map]
  | ok found => cases found <;> simp [Except.map]

/-- Unifying the line breaks of a text once more changes nothing just when no line feed had two
carriage returns before it. With each round one more of the returns is gone. A stored text has no
return before a line feed in the same case, and only then does adding it again, to any resolver that
names definitions in the same way, store the same text with the same definitions. In the other case
whatever is stored has another text. -/
theorem stored_again_iff_single_returns (parse : Parser) (namer : Namer) (content : String) :
    let doubled := ['\r', '\r', '\n'] <:+: content.toList
    (withLineFeeds (withLineFeeds content) = withLineFeeds content ↔ ¬ doubled) ∧
    (∀ n, BareFeeds (unifyBreaks^[n] content.toList) ↔
      ¬ (List.replicate (n + 1) '\r' ++ ['\n']) <:+: content.toList) ∧
    ∀ path s, namer.resolveText content path parse = .ok (some s) →
      (BareFeeds s.text.toList ↔ ¬ doubled) ∧
      (∀ held path', (⟨namer, held⟩ : Resolver).addText s.text path' parse =
        .ok ⟨namer, held ++ [{ s with path := path' }]⟩ ↔ ¬ doubled) ∧
      ∀ held path' s', (⟨namer, held⟩ : Resolver).addText s.text path' parse =
        .ok ⟨namer, held ++ [s']⟩ → (s'.text = s.text ↔ ¬ doubled) := by
  intro doubled
  have hb : BareFeeds (withLineFeeds content).toList ↔ ¬ doubled :=
    bareFeeds_withLineFeeds_iff content
  have again : withLineFeeds (withLineFeeds content) = withLineFeeds content ↔ ¬ doubled :=
    (withLineFeeds_eq_self_iff _).trans hb
  refine ⟨again, fun n => bareFeeds_iterate_iff n content.toList, fun path s h => ?_⟩
  obtain ⟨ht, -, ds, hp, hd⟩ := Namer.resolveText_eq_some_iff.mp h
  rw [← ht] at hb again
  refine ⟨hb, fun held path' => ?_, fun held path' s' hs => ?_⟩
  · rw [addText_eq_ok_iff, Namer.resolveText_eq_some_iff, ← again]
    exact ⟨fun hs => hs.1.symm, fun hs => ⟨hs.symm, rfl, ds, hp, hd⟩⟩
  · obtain ⟨ht', -⟩ := Namer.resolveText_eq_some_iff.mp (addText_eq_ok_iff.mp hs)
    rw [ht', again]

/-- A carriage return that stands elsewhere is kept, and the text with it is stored again. -/
theorem stored_again_of_lone_return :
    let content := "query X \x7b a \x7d\r\n\r"
    let s : HeldSource :=
      ⟨"query X \x7b a \x7d\n\r", some "x", ⟨.query, "X", "XDocument"⟩, []⟩
    ({} : Namer).resolveText content (some "x") = .ok (some s) ∧
      (⟨{}, [s]⟩ : Resolver).addText s.text none = .ok ⟨{}, [s, { s with path := none }]⟩ := by
  intro content s
  have h : ({} : Namer).resolveText content (some "x") = .ok (some s) := by decide +kernel
  obtain ⟨-, -, ha⟩ := stored_again_iff_single_returns Document.definitions {} content
  exact ⟨h, ((ha (some "x") s h).2.1 [s] none).mpr (by decide)⟩

/-- Of two carriage returns before a line feed one is stored. Adding the stored text again stores
another text. -/
theorem doubled_return_stored :
    let content := "query X \x7b a \x7d\r\r\n"
    let s : HeldSource := ⟨"query X \x7b a \x7d\r\n", none, ⟨.query, "X", "XDocument"⟩, []⟩
    let s' : HeldSource := ⟨"query X \x7b a \x7d\n", none, ⟨.query, "X", "XDocument"⟩, []⟩
    (⟨{}, []⟩ : Resolver).addText content none = .ok ⟨{}, [s]⟩ ∧
      (⟨{}, []⟩ : Resolver).addText s.text none = .ok ⟨{}, [s']⟩ ∧
      ¬ BareFeeds s.text.toList ∧ s'.text ≠ s.text ∧
      ¬ ∀ text, withLineFeeds (withLineFeeds text) = withLineFeeds text := by
  intro content s s'
  have hs : ({} : Namer).resolveText content none = .ok (some s) := by decide +kernel
  have hs' : ({} : Namer).resolveText s.text none = .ok (some s') := by decide +kernel
  refine ⟨addText_eq_ok_iff.mpr hs, addText_eq_ok_iff.mpr hs', by decide, by decide, fun h => ?_⟩
  exact absurd (h content) (by decide)

end Resolver

end TypedTag
