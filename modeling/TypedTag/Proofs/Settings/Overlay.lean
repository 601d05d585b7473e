import TypedTag.Proofs.Json.Objects
import TypedTag.Proofs.Json.Overlay
import TypedTag.Proofs.Settings.RoundTrip

/-! # Settings laid over the defaults

What an object sets does not depend on the order of its members, nor on those with keys that belong
to no setting. Every setting that is not set keeps its default. If the key of a setting is repeated,
or stands for a value that does not fit, nothing is loaded.
-/

namespace TypedTag

open Json Naming

theorem Settings.keys_eq : keys =
    ["augmentedModuleName", "definitionsModule", "duplicatePolicy", "header", "registryName",
      "tagFunctionName", "typedDocumentModule", "namingConvention", "transformUnderscore"] := rfl

inductive Setting
  | augmentedModule (name : Option String)
  | definitionsModule (name : String)
  | policy (policy : DuplicatePolicy)
  | header (text : Option String)
  | registryName (name : String)
  | tagFunction (name : String)
  | typedDocumentModule (name : String)
  | convention (convention : Convention)
  | dropUnderscores (drop : Bool)

namespace Setting

def key : Setting → String
  | .augmentedModule _ => "augmentedModuleName"
  | .definitionsModule _ => "definitionsModule"
  | .policy _ => "duplicatePolicy"
  | .header _ => "header"
  | .registryName _ => "registryName"
  | .tagFunction _ => "tagFunctionName"
  | .typedDocumentModule _ => "typedDocumentModule"
  | .convention _ => "namingConvention"
  | .dropUnderscores _ => "transformUnderscore"

/-- Tells that a value stands for a setting behind its key. -/
def Written : Setting → Value → Prop
  | .augmentedModule t, v | .header t, v => v = t.elim .null .string
  | .definitionsModule t, v | .registryName t, v | .tagFunction t, v
  | .typedDocumentModule t, v => v = .string t
  | .policy p, v => Names p.key v
  | .convention c, v => Names c.key v
  | .dropUnderscores b, v => v = .boolean b

def HoldsIn : Setting → Settings → Prop
  | .augmentedModule m, s => s.emitter.augmentedModule = m
  | .definitionsModule m, s => s.emitter.definitionsModule = m
  | .policy p, s => s.emitter.policy = p
  | .header h, s => s.emitter.header = h
  | .registryName n, s => s.emitter.registryName = n
  | .tagFunction f, s => s.emitter.tagFunction = f
  | .typedDocumentModule m, s => s.emitter.typedDocumentModule = m
  | .convention c, s => s.namer.convention = c
  | .dropUnderscores b, s => s.namer.dropUnderscores = b

def put : Setting → Settings → Settings
  | .augmentedModule m, s => { s with emitter.augmentedModule := m }
  | .definitionsModule m, s => { s with emitter.definitionsModule := m }
  | .policy p, s => { s with emitter.policy := p }
  | .header h, s => { s with emitter.header := h }
  | .registryName n, s => { s with emitter.registryName := n }
  | .tagFunction f, s => { s with emitter.tagFunction := f }
  | .typedDocumentModule m, s => { s with emitter.typedDocumentModule := m }
  | .convention c, s => { s with namer.convention := c }
  | .dropUnderscores b, s => { s with namer.dropUnderscores := b }

def SetBy (x : Setting) (ms : List (String × Value)) : Prop :=
  ∃ v, (x.key, v) ∈ ms ∧ x.Written v

theorem setBy_cons {x : Setting} {key : String} {v : Value} {ms : List (String × Value)} :
    x.SetBy ((key, v) :: ms) ↔ x.key = key ∧ x.Written v ∨ x.SetBy ms := by
  simp [SetBy, or_and_right, exists_or]

theorem holdsIn_put (x y : Setting) (s : Settings) :
    y.HoldsIn (x.put s) ↔ y = x ∨ y.key ≠ x.key ∧ y.HoldsIn s := by
  cases x <;> cases y <;> simp [HoldsIn, put, key, eq_comm]

theorem key_mem_keys (x : Setting) : x.key ∈ Settings.keys := by
  rw [Settings.keys_eq]
  cases x <;> simp [key]

end Setting

namespace Settings

open Reader

variable {text : String} {ms : List (String × Value)} {s s' : Settings} {m : String × Value}
  {key : String} {v : Value}

theorem ofJson_eq_ofMembers (h : (value maxDepth).run text = .ok (.object ms)) :
    ofJson text = ofMembers ms := by
  obtain ⟨rest, hv, hf⟩ := run_eq_ok_iff.mp h
  obtain ⟨cs, hp, hm⟩ := members_of_value_eq_object hv
  refine run_of_lift ?_ hf
  rw [reader, bind_of_ok hp]
  exact bind_of_ok hm

def putMember (s : Settings) (m : String × Value) : Except Json.Error Settings := do
  let emitter ← EmitterSettings.record.putMember s.emitter m
  let namer ← Namer.record.putMember s.namer m
  return { emitter, namer }

theorem putMember_eq_ok_iff : s.putMember m = .ok s' ↔
    EmitterSettings.record.putMember s.emitter m = .ok s'.emitter ∧
      Namer.record.putMember s.namer m = .ok s'.namer := by
  simp only [putMember, bind_eq_ok_iff]
  constructor
  · rintro ⟨emitter, he, namer, hn, hs⟩
    cases hs
    exact ⟨he, hn⟩
  · rintro ⟨he, hn⟩
    exact ⟨_, he, _, hn, rfl⟩

theorem foldlM_putMember_eq_ok_iff : ms.foldlM putMember s = .ok s' ↔
    ms.foldlM EmitterSettings.record.putMember s.emitter = .ok s'.emitter ∧
      ms.foldlM Namer.record.putMember s.namer = .ok s'.namer := by
  induction ms generalizing s with
  | nil => cases s; cases s'; simp [pure, Except.pure]
  | cons m ms ih =>
    simp only [List.foldlM_cons, bind_eq_ok_iff, putMember_eq_ok_iff, ih]
    constructor
    · rintro ⟨s₁, ⟨he, hn⟩, hes, hns⟩
      exact ⟨⟨_, he, hes⟩, _, hn, hns⟩
    · rintro ⟨⟨emitter, he, hes⟩, namer, hn, hns⟩
      exact ⟨⟨emitter, namer⟩, ⟨he, hn⟩, hes, hns⟩

theorem putMember_of_written {x : Setting} (h : x.Written v) :
    s.putMember (x.key, v) = .ok (x.put s) := by
  rw [putMember_eq_ok_iff]
  cases x with
  | augmentedModule t => exact ⟨Slot.put_optionalText_eq_ok_iff.mpr ⟨t, h, rfl⟩, rfl⟩
  | definitionsModule t => exact ⟨Slot.put_text_eq_ok_iff.mpr ⟨t, h, rfl⟩, rfl⟩
  | policy p =>
    exact ⟨Slot.put_choice_eq_ok_iff.mpr
      ⟨p.key, fun e => { e with policy := p }, h, by cases p <;> rfl, rfl⟩, rfl⟩
  | header t => exact ⟨Slot.put_optionalText_eq_ok_iff.mpr ⟨t, h, rfl⟩, rfl⟩
  | registryName t => exact ⟨Slot.put_text_eq_ok_iff.mpr ⟨t, h, rfl⟩, rfl⟩
  | tagFunction t => exact ⟨Slot.put_text_eq_ok_iff.mpr ⟨t, h, rfl⟩, rfl⟩
  | typedDocumentModule t => exact ⟨Slot.put_text_eq_ok_iff.mpr ⟨t, h, rfl⟩, rfl⟩
  | convention c =>
    exact ⟨rfl, Slot.put_choice_eq_ok_iff.mpr
      ⟨c.key, fun n => { n with convention := c }, h, by cases c <;> rfl, rfl⟩⟩
  | dropUnderscores b => exact ⟨rfl, Slot.put_flag_eq_ok_iff.mpr ⟨b, h, rfl⟩⟩

theorem mem_keys_iff :
    key ∈ keys ↔ EmitterSettings.record.takes key ∨ Namer.record.takes key := by
  rw [keys, List.mem_append, Record.takes_iff, Record.takes_iff]

theorem putMember_of_not_mem_keys (h : key ∉ keys) : s.putMember (key, v) = .ok s := by
  rw [mem_keys_iff, not_or] at h
  exact putMember_eq_ok_iff.mpr
    ⟨Record.putMember_of_not_takes h.1, Record.putMember_of_not_takes h.2⟩

theorem exists_written_of_putMember (hk : key ∈ keys) (h : s.putMember (key, v) = .ok s') :
    ∃ x : Setting, x.key = key ∧ x.Written v := by
  obtain ⟨he, hn⟩ := putMember_eq_ok_iff.mp h
  simp only [keys_eq, List.mem_cons, List.not_mem_nil, or_false] at hk
  rcases hk with rfl | rfl | rfl | rfl | rfl | rfl | rfl | rfl | rfl
  · obtain ⟨t, hv, -⟩ := Slot.put_optionalText_eq_ok_iff.mp he
    exact ⟨.augmentedModule t, rfl, hv⟩
  · obtain ⟨t, hv, -⟩ := Slot.put_text_eq_ok_iff.mp he
    exact ⟨.definitionsModule t, rfl, hv⟩
  · obtain ⟨name, variant, hv, hc, -⟩ := Slot.put_choice_eq_ok_iff.mp he
    obtain ⟨p, -, rfl⟩ : ∃ p ∈ [DuplicatePolicy.firstWins, .lastWins], p.key = name :=
      List.mem_map.mp (mem_map_fst_of_chosen hc)
    exact ⟨.policy p, rfl, hv⟩
  · obtain ⟨t, hv, -⟩ := Slot.put_optionalText_eq_ok_iff.mp he
    exact ⟨.header t, rfl, hv⟩
  · obtain ⟨t, hv, -⟩ := Slot.put_text_eq_ok_iff.mp he
    exact ⟨.registryName t, rfl, hv⟩
  · obtain ⟨t, hv, -⟩ := Slot.put_text_eq_ok_iff.mp he
    exact ⟨.tagFunction t, rfl, hv⟩
  · obtain ⟨t, hv, -⟩ := Slot.put_text_eq_ok_iff.mp he
    exact ⟨.typedDocumentModule t, rfl, hv⟩
  · obtain ⟨name, variant, hv, hc, -⟩ := Slot.put_choice_eq_ok_iff.mp hn
    obtain ⟨c, -, rfl⟩ : ∃ c ∈ [Convention.pascalCase, .keep], c.key = name :=
      List.mem_map.mp (mem_map_fst_of_chosen hc)
    exact ⟨.convention c, rfl, hv⟩
  · obtain ⟨b, hv, -⟩ := Slot.put_flag_eq_ok_iff.mp hn
    exact ⟨.dropUnderscores b, rfl, hv⟩

theorem ofMembers_eq_ok_iff : ofMembers ms = .ok s ↔
    ms.foldlM putMember {} = .ok s ∧ ∀ key ∈ keys, (ms.map (·.1)).count key ≤ 1 := by
  simp only [ofMembers, bind_eq_ok_iff, Record.overlay_nil_eq_ok_iff, foldlM_putMember_eq_ok_iff,
    mem_keys_iff]
  constructor
  · rintro ⟨emitter, ⟨he, heo⟩, namer, ⟨hn, hno⟩, hs⟩
    cases hs
    exact ⟨⟨he, hn⟩, fun key hk => hk.elim (heo key) (hno key)⟩
  · rintro ⟨⟨he, hn⟩, ho⟩
    exact ⟨_, ⟨he, fun key hk => ho key (.inl hk)⟩, _, ⟨hn, fun key hk => ho key (.inr hk)⟩, rfl⟩

theorem written_unique {x y : Setting} (hx : x.Written v) (hy : y.Written v)
    (hk : y.key = x.key) : y = x := by
  have hp : y.put {} = x.put {} :=
    Except.ok.inj ((putMember_of_written hy).symm.trans (hk ▸ putMember_of_written hx))
  have hh : y.HoldsIn (y.put {}) := (Setting.holdsIn_put y y {}).mpr (.inl rfl)
  rw [hp, Setting.holdsIn_put] at hh
  exact hh.resolve_right fun h => h.1 hk

/-- Members can be put in one by one if those with the key of a setting stand for one. -/
theorem exists_foldlM_putMember_iff : (∃ s', ms.foldlM putMember s = .ok s') ↔
    ∀ m ∈ ms, m.1 ∈ keys → ∃ x : Setting, x.key = m.1 ∧ x.Written m.2 := by
  induction ms generalizing s with
  | nil => simp [pure, Except.pure]
  | cons m ms ih =>
    obtain ⟨key, v⟩ := m
    simp only [List.foldlM_cons, bind_eq_ok_iff, List.forall_mem_cons]
    constructor
    · rintro ⟨s', s₁, hp, hf⟩
      exact ⟨fun hk => exists_written_of_putMember hk hp, ih.mp ⟨s', hf⟩⟩
    · rintro ⟨hm, hms⟩
      obtain ⟨s₁, hp⟩ : ∃ s₁, s.putMember (key, v) = .ok s₁ := by
        by_cases hk : key ∈ keys
        · obtain ⟨x, rfl, hw⟩ := hm hk
          exact ⟨_, putMember_of_written hw⟩
        · exact ⟨s, putMember_of_not_mem_keys hk⟩
      obtain ⟨s', hf⟩ := ih.mpr hms
      exact ⟨s', s₁, hp, hf⟩

/-- A member changes nothing but the setting of its key. -/
theorem holdsIn_of_putMember (h : s.putMember (key, v) = .ok s') (y : Setting) :
    y.HoldsIn s' ↔ y.key = key ∧ y.Written v ∨ y.key ≠ key ∧ y.HoldsIn s := by
  by_cases hk : key ∈ keys
  · obtain ⟨x, rfl, hw⟩ := exists_written_of_putMember hk h
    obtain rfl : x.put s = s' := Except.ok.inj ((putMember_of_written hw).symm.trans h)
    have hyx : y.key = x.key ∧ y.Written v ↔ y = x :=
      ⟨fun ⟨he, hy⟩ => written_unique hw hy he, by rintro rfl; exact ⟨rfl, hw⟩⟩
    rw [Setting.holdsIn_put, hyx]
  · obtain rfl : s = s' := Except.ok.inj ((putMember_of_not_mem_keys hk).symm.trans h)
    have hy : y.key ≠ key := fun he => hk (he ▸ y.key_mem_keys)
    simp [hy]

/-- After members were put in one by one, the settings are those set by them, and the settings from
before where the members set none. -/
theorem holdsIn_of_foldlM_putMember (h : ms.foldlM putMember s = .ok s')
    (ho : ∀ key ∈ keys, (ms.map (·.1)).count key ≤ 1) (y : Setting) :
    y.HoldsIn s' ↔ y.SetBy ms ∨ y.key ∉ ms.map (·.1) ∧ y.HoldsIn s := by
  induction ms generalizing s with
  | nil =>
    cases h
    simp [Setting.SetBy]
  | cons m ms ih =>
    obtain ⟨key, v⟩ := m
    rw [List.foldlM_cons] at h
    obtain ⟨s₁, hp, hf⟩ := bind_eq_ok_iff.mp h
    have ht : ∀ k ∈ keys, (ms.map (·.1)).count k ≤ 1 := fun k hk =>
      Nat.le_trans List.count_le_count_cons (ho k hk)
    -- What the first member sets is not set again.
    have hn : y.key = key → y.key ∉ ms.map (·.1) := by
      rintro rfl
      have hc : (y.key :: ms.map (·.1)).count y.key ≤ 1 := ho y.key y.key_mem_keys
      rw [List.count_cons_self] at hc
      exact List.count_eq_zero.mp (Nat.le_zero.mp (Nat.le_of_succ_le_succ hc))
    rw [ih hf ht, holdsIn_of_putMember hp, Setting.setBy_cons, List.map_cons, List.mem_cons, not_or]
    constructor
    · rintro (hs | ⟨hm, hw | ⟨he, hh⟩⟩)
      · exact .inl (.inr hs)
      · exact .inl (.inl hw)
      · exact .inr ⟨⟨he, hm⟩, hh⟩
    · rintro ((hw | hs) | ⟨⟨he, hm⟩, hh⟩)
      · exact .inr ⟨hn hw.1, .inl hw⟩
      · exact .inl hs
      · exact .inr ⟨hm, .inr ⟨he, hh⟩⟩

theorem ext_holdsIn (h : ∀ x : Setting, x.HoldsIn s' → x.HoldsIn s) : s = s' := by
  obtain ⟨⟨_, _, _, _, _, _, _⟩, _, _⟩ := s
  obtain ⟨⟨module?, definitions, policy, header?, registry, function, typed⟩,
    convention, drop⟩ := s'
  obtain rfl := h (.augmentedModule module?) rfl
  obtain rfl := h (.definitionsModule definitions) rfl
  obtain rfl := h (.policy policy) rfl
  obtain rfl := h (.header header?) rfl
  obtain rfl := h (.registryName registry) rfl
  obtain rfl := h (.tagFunction function) rfl
  obtain rfl := h (.typedDocumentModule typed) rfl
  obtain rfl := h (.convention convention) rfl
  obtain rfl := h (.dropUnderscores drop) rfl
  rfl

/-- Tells that no key of a setting is repeated and each is followed by a value that stands for a
setting. -/
structure WellFormed (ms : List (String × Value)) : Prop where
  once : ∀ key ∈ keys, (ms.map (·.1)).count key ≤ 1
  written : ∀ m ∈ ms, m.1 ∈ keys → ∃ x : Setting, x.key = m.1 ∧ x.Written m.2

theorem exists_ofMembers_eq_ok_iff : (∃ s, ofMembers ms = .ok s) ↔ WellFormed ms := by
  simp only [ofMembers_eq_ok_iff, exists_and_right, exists_foldlM_putMember_iff]
  exact ⟨fun h => ⟨h.2, h.1⟩, fun h => ⟨h.written, h.once⟩⟩

theorem holdsIn_of_ofMembers (h : ofMembers ms = .ok s) (x : Setting) :
    x.HoldsIn s ↔ x.SetBy ms ∨ x.key ∉ ms.map (·.1) ∧ x.HoldsIn {} := by
  obtain ⟨hf, ho⟩ := ofMembers_eq_ok_iff.mp h
  exact holdsIn_of_foldlM_putMember hf ho x

section Known

def known (ms : List (String × Value)) : List (String × Value) :=
  ms.filter (·.1 ∈ keys)

variable {ms' : List (String × Value)}

theorem count_known (hk : key ∈ keys) :
    ((known ms).map (·.1)).count key = (ms.map (·.1)).count key := by
  have hm : (known ms).map (·.1) = (ms.map (·.1)).filter (· ∈ keys) := by
    rw [List.filter_map]
    rfl
  rw [hm, List.count_filter (by simpa using hk)]

theorem count_eq_of_perm (h : (known ms').Perm (known ms)) (hk : key ∈ keys) :
    (ms'.map (·.1)).count key = (ms.map (·.1)).count key := by
  have hp : ((known ms').map (·.1)).Perm ((known ms).map (·.1)) := h.map _
  rw [← count_known hk, hp.count_eq, count_known hk]

theorem mem_of_perm {m : String × Value} (h : (known ms').Perm (known ms)) (hk : m.1 ∈ keys) :
    m ∈ ms' ↔ m ∈ ms := by
  have hm := h.mem_iff (a := m)
  simpa [known, hk] using hm

theorem WellFormed.of_perm (hw : WellFormed ms) (h : (known ms').Perm (known ms)) :
    WellFormed ms' where
  once := fun _ hk => count_eq_of_perm h hk ▸ hw.once _ hk
  written := fun m hm hk => hw.written m ((mem_of_perm h hk).mp hm) hk

theorem ofMembers_of_perm (hw : WellFormed ms) (h : (known ms').Perm (known ms)) :
    ofMembers ms' = ofMembers ms := by
  obtain ⟨s, hs⟩ := exists_ofMembers_eq_ok_iff.mpr hw
  obtain ⟨s', hs'⟩ := exists_ofMembers_eq_ok_iff.mpr (hw.of_perm h)
  rw [hs, hs']
  refine congrArg _ (ext_holdsIn fun x hx => ?_)
  rw [holdsIn_of_ofMembers hs] at hx
  rw [holdsIn_of_ofMembers hs']
  refine hx.imp (fun ⟨v, hm, hv⟩ => ⟨v, (mem_of_perm h x.key_mem_keys).mpr hm, hv⟩) fun hn => ?_
  rw [← List.count_eq_zero, count_eq_of_perm h x.key_mem_keys, List.count_eq_zero]
  exact hn

end Known

/-- An object is loaded if no key of a setting is repeated in it and each is followed by a value
that stands for a setting. What is loaded are the settings of the object, and the defaults where it
sets none. Neither the order of the members nor any of those with other keys matter. -/
theorem load_object (h : (value maxDepth).run text = .ok (.object ms)) :
    ((∃ s, ofJson text = .ok s) ↔ WellFormed ms) ∧
    (∀ s, ofJson text = .ok s → ∀ x : Setting,
      x.HoldsIn s ↔ x.SetBy ms ∨ x.key ∉ ms.map (·.1) ∧ x.HoldsIn {}) ∧
    (WellFormed ms → ∀ text' ms', (value maxDepth).run text' = .ok (.object ms') →
      (known ms').Perm (known ms) → ofJson text' = ofJson text) ∧
    ∀ key ∈ keys, 1 < (ms.map (·.1)).count key → ∃ e, ofJson text = .error e := by
  rw [ofJson_eq_ofMembers h]
  refine ⟨exists_ofMembers_eq_ok_iff, fun s => holdsIn_of_ofMembers, ?_, ?_⟩
  · intro hw text' ms' h' hp
    rw [ofJson_eq_ofMembers h']
    exact ofMembers_of_perm hw hp
  · intro key hk hc
    cases ho : ofMembers ms with
    | error e => exact ⟨e, rfl⟩
    | ok s =>
      have hw : WellFormed ms := exists_ofMembers_eq_ok_iff.mp ⟨s, ho⟩
      exact absurd (hw.once key hk) (Nat.not_le.mpr hc)

theorem load_object_among_others :
    let text :=
      "\x7b\"a\":null,\"header\":\"h\",\"a\":true,\"duplicatePolicy\":\x7b\"lastWins\":null\x7d\x7d"
    let text' := "\x7b\"duplicatePolicy\":\x7b\"lastWins\":null\x7d,\"header\":\"h\"\x7d"
    ∃ ms, (value maxDepth).run text = .ok (.object ms) ∧ WellFormed ms ∧
      ∃ s, ofJson text = .ok s ∧ ofJson text' = .ok s ∧ s.emitter.header = some "h" ∧
        s.emitter.policy = .lastWins ∧ s.emitter.registryName = "documents" := by
  let header : String × Value := ("header", .string "h")
  let policy : String × Value := ("duplicatePolicy", .object [("lastWins", .null)])
  let ms : List (String × Value) := [("a", .null), header, ("a", .boolean true), policy]
  have hnull := readsBack_value_null 126
  have hh : ReadsBack (value 126) header.2 header.2 := readsBack_value_string 126 "h"
  have hb := readsBack_value_boolean 126 true
  have hp : ReadsBack (value 126) policy.2 policy.2 :=
    readsBack_value_object (.cons ⟨rfl, readsBack_value_null 125⟩ .nil)
  have hms : MembersReadBack (value 126) ms ms :=
    .cons ⟨rfl, hnull⟩ (.cons ⟨rfl, hh⟩ (.cons ⟨rfl, hb⟩ (.cons ⟨rfl, hp⟩ .nil)))
  have hms' : MembersReadBack (value 126) [policy, header] [policy, header] :=
    .cons ⟨rfl, hp⟩ (.cons ⟨rfl, hh⟩ .nil)
  have h := (readsBack_value_object hms).run_print none
  have h' := (readsBack_value_object hms').run_print none
  have hheader : (Setting.header (some "h")).SetBy ms :=
    ⟨_, .tail _ (.head _), rfl⟩
  have hpolicy : (Setting.policy .lastWins).SetBy ms :=
    ⟨_, .tail _ (.tail _ (.tail _ (.head _))), .inr (.inl rfl)⟩
  have hw : WellFormed ms := by
    refine ⟨by decide, ?_⟩
    simp only [ms, List.forall_mem_cons]
    have ha : "a" ∉ keys := by decide
    exact ⟨fun hk => absurd hk ha, fun _ => ⟨.header (some "h"), rfl, rfl⟩,
      fun hk => absurd hk ha, fun _ => ⟨.policy .lastWins, rfl, .inr (.inl rfl)⟩, by simp⟩
  obtain ⟨hok, holds, hperm, -⟩ := load_object h
  obtain ⟨s, hs⟩ := hok.mpr hw
  have hk : (known [policy, header]).Perm (known ms) := .swap header policy []
  have hr : "registryName" ∉ ms.map (·.1) := by decide
  exact ⟨ms, h, hw, s, hs, (hperm hw _ _ h' hk).trans hs,
    (holds s hs (.header (some "h"))).mpr (.inl hheader),
    (holds s hs (.policy .lastWins)).mpr (.inl hpolicy),
    (holds s hs (.registryName "documents")).mpr (.inr ⟨hr, rfl⟩)⟩

end Settings

end TypedTag
