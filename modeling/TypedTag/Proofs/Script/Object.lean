import TypedTag.Proofs.Entries

/-! # Objects with prototypes

Objects as a script has them. A property that an object does not have itself is looked for in its
prototype. An object literal inherits from the oldest object, unless one of its entries gives it
another prototype: an entry called `__proto__` defines no property.
-/

namespace TypedTag.Script

/-- A value of a script. A string is a primitive, and an object is known by its place in memory. -/
inductive Value
  | undefined
  | null
  | primitive (text : String)
  | object (id : Nat)
  deriving DecidableEq, Repr

def Value.isNullish : Value → Bool
  | .undefined | .null => true
  | .primitive _ | .object _ => false

/-- A property has a value, or it answers with the prototype of the object that is asked. -/
inductive Property
  | data (value : Value)
  | prototype
  deriving DecidableEq, Repr

structure Object where
  own : List (String × Property) := []
  parent : Option Nat := some 0
  deriving DecidableEq, Repr

/-- All objects, the newest one first. They are counted from the oldest one, and an object inherits
from an older one only. -/
abbrev Heap := List Object

def Heap.parent? : Heap → Nat → Option Nat
  | [], _ => none
  | o :: older, id => if id = older.length then o.parent else parent? older id

def Heap.property? : Heap → Nat → String → Option Property
  | [], _, _ => none
  | o :: older, id, key =>
    if id = older.length then (o.own.lookup key).or (o.parent.bind fun p => property? older p key)
    else property? older id key

def answer (parent : Option Nat) : Option Property → Value
  | none => .undefined
  | some (.data v) => v
  | some .prototype => (parent.map .object).getD .null

namespace Heap

def read (heap : Heap) (id : Nat) (key : String) : Value :=
  answer (heap.parent? id) (heap.property? id key)

def inherited (heap : Heap) (parent : Option Nat) (key : String) : Value :=
  answer parent (parent.bind fun p => heap.property? p key)

/-- A value, or a new object in the place of a nullish one. -/
def orObject (heap : Heap) (v : Value) : Value × Heap :=
  if v.isNullish then (.object heap.length, {} :: heap) else (v, heap)

end Heap

/-- The prototype that an entry called `__proto__` with this value gives to an object literal. -/
def Value.asParent (v : Value) (parent : Option Nat) : Option Nat :=
  match v with
  | .object id => some id
  | .null => none
  | .undefined | .primitive _ => parent

def Object.define (o : Object) (entry : String × Value) : Object :=
  if entry.1 = "__proto__" then { o with parent := entry.2.asParent o.parent }
  else { o with own := (entry.1, .data entry.2) :: o.own }

def objectLiteral (entries : List (String × Value)) : Object :=
  entries.foldl Object.define {}

/-- What there is before a module is evaluated. All objects inherit from the oldest one unless they
are given another prototype, so what it has, all have in common. -/
structure Realm where
  objects : Heap
  common : List (String × Property)
  defined : ∀ p ∈ common, p.2 ≠ .data .undefined ∧ p.2 ≠ .data .null

def Realm.heap (realm : Realm) : Heap :=
  realm.objects ++ [{ own := realm.common, parent := none }]

section Literal

variable {entries : List (String × Value)} {heap : Heap} {key : String} {v : Value}

theorem lookup_own_define (o : Object) (e : String × Value) (key : String) :
    (o.define e).own.lookup key =
      if key = e.1 ∧ key ≠ "__proto__" then some (.data e.2) else o.own.lookup key := by
  unfold Object.define
  by_cases he : e.1 = "__proto__"
  · have hn : ¬ (key = e.1 ∧ key ≠ "__proto__") := fun h => h.2 (h.1.trans he)
    rw [if_pos he, if_neg hn]
  · rw [if_neg he, lookup_cons_eq_ite]
    by_cases hk : key = e.1 <;> simp [hk, he]

theorem parent_define (o : Object) (e : String × Value) :
    (o.define e).parent = if e.1 = "__proto__" then e.2.asParent o.parent else o.parent := by
  unfold Object.define
  split_ifs <;> rfl

/-- An entry defines the property of its name, unless that is `__proto__`. -/
theorem lookup_own_foldl (hn : (entries.map (·.1)).Nodup) (hk : key ≠ "__proto__") (o : Object) :
    (entries.foldl Object.define o).own.lookup key =
      ((entries.lookup key).map .data).or (o.own.lookup key) := by
  induction entries generalizing o with
  | nil => rfl
  | cons e entries ih =>
    rw [List.foldl_cons, ih hn.of_cons, lookup_own_define, lookup_cons_eq_ite]
    by_cases he : key = e.1
    · subst he
      simp [lookup_eq_none_of_nodup hn, hk]
    · simp [he]

theorem lookup_own_foldl_proto (entries : List (String × Value)) (o : Object) :
    (entries.foldl Object.define o).own.lookup "__proto__" = o.own.lookup "__proto__" := by
  induction entries generalizing o with
  | nil => rfl
  | cons e entries ih => simp [ih, lookup_own_define]

theorem parent_foldl (hn : (entries.map (·.1)).Nodup) (o : Object) :
    (entries.foldl Object.define o).parent =
      ((entries.lookup "__proto__").map (·.asParent o.parent)).getD o.parent := by
  induction entries generalizing o with
  | nil => rfl
  | cons e entries ih =>
    rw [List.foldl_cons, ih hn.of_cons, parent_define, lookup_cons_eq_ite]
    by_cases he : "__proto__" = e.1
    · have hl : entries.lookup "__proto__" = none := he ▸ lookup_eq_none_of_nodup hn
      simp [hl, ← he]
    · simp [he, Ne.symm he]

theorem read_new_object (o : Object) (heap : Heap) (key : String) :
    Heap.read (o :: heap) heap.length key =
      answer o.parent ((o.own.lookup key).or (o.parent.bind fun p => heap.property? p key)) := by
  simp [Heap.read, Heap.parent?, Heap.property?]

theorem read_objectLiteral (hn : (entries.map (·.1)).Nodup) (hk : key ≠ "__proto__")
    (h : entries.lookup key = some v) :
    Heap.read (objectLiteral entries :: heap) heap.length key = v := by
  rw [read_new_object, objectLiteral, lookup_own_foldl hn hk, h]
  rfl

theorem read_objectLiteral_inherited (hn : (entries.map (·.1)).Nodup)
    (h : key = "__proto__" ∨ entries.lookup key = none) :
    Heap.read (objectLiteral entries :: heap) heap.length key =
      heap.inherited (objectLiteral entries).parent key := by
  have ho : (objectLiteral entries).own.lookup key = none := by
    by_cases hk : key = "__proto__"
    · rw [hk, objectLiteral, lookup_own_foldl_proto]
      rfl
    · rw [objectLiteral, lookup_own_foldl hn hk, h.resolve_left hk]
      rfl
  rw [read_new_object, ho, Option.none_or, Heap.inherited]

theorem parent_objectLiteral (hn : (entries.map (·.1)).Nodup) :
    (objectLiteral entries).parent =
      ((entries.lookup "__proto__").map (·.asParent (some 0))).getD (some 0) :=
  parent_foldl hn {}

end Literal

section Fallback

variable {heap : Heap} {v : Value}

theorem Heap.orObject_eq_iff {w : Value} (hw : ¬ w.isNullish) :
    heap.orObject v = (w, heap) ↔ v = w := by
  constructor
  · intro h
    unfold orObject at h
    split_ifs at h with hv
    · exact absurd (congrArg (·.2.length) h) (by simp)
    · exact congrArg Prod.fst h
  · rintro rfl
    exact if_neg hw

theorem Heap.orObject_eq_new_iff :
    heap.orObject v = (.object heap.length, {} :: heap) ↔ v.isNullish := by
  unfold orObject
  split_ifs with hv
  · simp [hv]
  · simp [hv]

theorem Heap.not_isNullish_orObject : ¬ (heap.orObject v).1.isNullish := by
  unfold orObject
  split_ifs with hv
  · exact Bool.false_ne_true
  · exact hv

end Fallback

section Realm

theorem property?_oldest (objects : Heap) (o : Object) (key : String) (ho : o.parent = none) :
    Heap.property? (objects ++ [o]) 0 key = o.own.lookup key := by
  induction objects with
  | nil => simp [Heap.property?, ho]
  | cons o' objects ih => simp [Heap.property?, ih]

theorem Realm.not_isNullish_of_lookup (realm : Realm) {key : String} {v : Value}
    (h : realm.common.lookup key = some (.data v)) : ¬ v.isNullish := by
  obtain ⟨before, after, hc, -⟩ := List.lookup_eq_some_iff.mp h
  have hd := realm.defined (key, .data v) (by simp [hc])
  cases v <;> simp_all [Value.isNullish]

theorem Realm.inherited_eq (realm : Realm) (key : String) :
    realm.heap.inherited (some 0) key = answer (some 0) (realm.common.lookup key) :=
  congrArg (answer (some 0)) (property?_oldest realm.objects _ key rfl)

theorem Realm.isNullish_inherited_iff (realm : Realm) (key : String) :
    (realm.heap.inherited (some 0) key).isNullish ↔ realm.common.lookup key = none := by
  rw [realm.inherited_eq]
  cases h : realm.common.lookup key with
  | none => simp [answer, Value.isNullish]
  | some p =>
    cases p with
    | data v => simpa [answer] using realm.not_isNullish_of_lookup h
    | prototype => simp [answer, Value.isNullish]

end Realm

end TypedTag.Script
