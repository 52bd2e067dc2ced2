import JsonValidation.Path.Basic
import JsonValidation.Value.Basic

/-!
# Prunings of values

A pruning of a value is what is left of it when some members of objects are taken out, at any depth.
Scalars are left as they are, and an array keeps all its items. Validation only ever prunes, so places
in a pruning are places in the value too.

* `Value.IsPruningOf`: the relation between values, with `IsPruningOf.refl` and `IsPruningOf.trans`.
* `Value.KeptIn`: the relation between values that may be absent.
* `isPruningOf_object_iff`: a pruning of an object, name by name.
* `Value.walk?`, `Value.Reaches`: walking down a value, and the walks that get to their last step.
* `KeptIn.walk?`, `Reaches.of_keptIn`: a walk through a pruning is a walk through the value.
-/

namespace JsonValidation

namespace Value

/-- Induction over values: a property of all items of an array carries over to the array, and a
    property of the values of all members of an object to the object. -/
@[elab_as_elim, induction_eliminator]
theorem induct {motive : Value → Prop} (null : motive null) (bool : ∀ b, motive (bool b))
    (number : ∀ n, motive (number n)) (string : ∀ s, motive (string s))
    (array : ∀ items, (∀ v ∈ items, motive v) → motive (array items))
    (object : ∀ members, (∀ m ∈ members, motive m.2) → motive (object members)) :
    ∀ v, motive v := by
  intro v
  refine @Value.rec motive (fun items => ∀ v ∈ items, motive v)
    (fun members => ∀ m ∈ members, motive m.2) (fun m => motive m.2)
    null bool number string array object ?_ ?_ ?_ ?_ ?_ v
  · simp
  · intro head tail hhead htail v hv
    rcases List.mem_cons.mp hv with rfl | hv
    · exact hhead
    · exact htail v hv
  · simp
  · intro head tail hhead htail m hm
    rcases List.mem_cons.mp hm with rfl | hm
    · exact hhead
    · exact htail m hm
  · exact fun _ _ h => h

end Value

theorem Members.mem_of_lookup {name : String} {value : Value} {members : Members}
    (h : lookup name members = some value) : (name, value) ∈ members := by
  induction members with
  | nil => cases h
  | cons member rest ih =>
    obtain ⟨key, old⟩ := member
    rw [lookup] at h
    split at h
    · rename_i hkey
      rw [hkey, Option.some.inj h]
      exact List.mem_cons_self
    · exact List.mem_cons_of_mem _ (ih h)

namespace Value

/-! ## Prunings -/

/-- A value and what it was pruned from. Scalars are equal, an array has as many items as the
    original and each is a pruning of the item in its place, and an object has some of the names of
    the original, each with a pruning of the value that it has there. -/
inductive IsPruningOf : Value → Value → Prop
  | null : IsPruningOf .null .null
  | bool (b : Bool) : IsPruningOf (.bool b) (.bool b)
  | number (n : Number) : IsPruningOf (.number n) (.number n)
  | string (s : String) : IsPruningOf (.string s) (.string s)
  | array {items originals : List Value} (length_eq : items.length = originals.length)
      (pruned : ∀ (i : Nat) (v w : Value), items[i]? = some v → originals[i]? = some w →
        IsPruningOf v w) :
      IsPruningOf (.array items) (.array originals)
  | object {members originals : Members}
      (named : ∀ name v, Members.lookup name members = some v →
        ∃ w, Members.lookup name originals = some w)
      (pruned : ∀ name v w, Members.lookup name members = some v →
        Members.lookup name originals = some w → IsPruningOf v w) :
      IsPruningOf (.object members) (.object originals)

namespace IsPruningOf

/-- Nothing has to be taken out. -/
theorem refl (v : Value) : v.IsPruningOf v := by
  induction v with
  | null => exact .null
  | bool b => exact .bool b
  | number n => exact .number n
  | string s => exact .string s
  | array items ih =>
    refine .array rfl fun i v w hv hw => ?_
    have heq : v = w := Option.some.inj (hv.symm.trans hw)
    rw [← heq]
    exact ih v (List.mem_of_getElem? hv)
  | object members ih =>
    refine .object (fun name v hv => ⟨v, hv⟩) fun name v w hv hw => ?_
    have heq : v = w := Option.some.inj (hv.symm.trans hw)
    rw [← heq]
    exact ih (name, v) (Members.mem_of_lookup hv)

theorem trans {u v w : Value} (huv : u.IsPruningOf v) (hvw : v.IsPruningOf w) : u.IsPruningOf w := by
  induction huv generalizing w with
  | null => exact hvw
  | bool b => exact hvw
  | number n => exact hvw
  | string s => exact hvw
  | @array items middle hlength _ ih =>
    cases hvw with
    | @array _ originals hlength' hpruned =>
      refine .array (hlength.trans hlength') fun i u w hu hw => ?_
      have hi : i < middle.length := by
        have := (List.getElem?_eq_some_iff.mp hu).1
        omega
      exact ih i u middle[i] hu (List.getElem?_eq_getElem hi)
        (hpruned i middle[i] w (List.getElem?_eq_getElem hi) hw)
  | @object members middle hnamed _ ih =>
    cases hvw with
    | @object _ originals hnamed' hpruned =>
      refine .object (fun name u hu => ?_) fun name u w hu hw => ?_
      · obtain ⟨v, hv⟩ := hnamed name u hu
        exact hnamed' name v hv
      · obtain ⟨v, hv⟩ := hnamed name u hu
        exact ih name u v hu hv (hpruned name v w hv hw)

/-- Null is a pruning of null only. -/
theorem null_iff {w : Value} : Value.null.IsPruningOf w ↔ w = .null := by
  constructor
  · intro h
    cases h
    rfl
  · rintro rfl
    exact .null

end IsPruningOf

/-- What is present in the first place is present in the second as well, and is a pruning of it. -/
def KeptIn (a b : Option Value) : Prop := ∀ v, a = some v → ∃ w, b = some w ∧ v.IsPruningOf w

theorem KeptIn.refl (a : Option Value) : KeptIn a a := fun v hv => ⟨v, hv, .refl v⟩

theorem KeptIn.trans {a b c : Option Value} (hab : KeptIn a b) (hbc : KeptIn b c) : KeptIn a c := by
  intro u hu
  obtain ⟨v, hv, huv⟩ := hab u hu
  obtain ⟨w, hw, hvw⟩ := hbc v hv
  exact ⟨w, hw, huv.trans hvw⟩

theorem KeptIn.of_isPruningOf {v w : Value} (h : v.IsPruningOf w) : KeptIn (some v) (some w) := by
  rintro u ⟨⟩
  exact ⟨w, rfl, h⟩

/-- An object is a pruning of another one when every member that it has is a pruning of the member of
    that name. -/
theorem isPruningOf_object_iff {members originals : Members} :
    (Value.object members).IsPruningOf (.object originals) ↔
      ∀ name, KeptIn (Members.lookup name members) (Members.lookup name originals) := by
  constructor
  · intro h name v hv
    cases h with
    | object hnamed hpruned =>
      obtain ⟨w, hw⟩ := hnamed name v hv
      exact ⟨w, hw, hpruned name v w hv hw⟩
  · intro h
    refine .object (fun name v hv => ?_) fun name v w hv hw => ?_
    · obtain ⟨w, hw, -⟩ := h name v hv
      exact ⟨w, hw⟩
    · obtain ⟨w', hw', hvw⟩ := h name v hv
      rw [Option.some.inj (hw.symm.trans hw')]
      exact hvw

/-! ## Walking down a value -/

/-- What one step leads to: a member of an object or an item of an array. -/
def step? : Value → Segment → Option Value
  | .object members, .field name => Members.lookup name members
  | .array items, .index position => items[position]?
  | _, _ => none

/-- What steps lead to, one after the other, from a value that may be absent. -/
def walk? (input : Option Value) : List Segment → Option Value
  | [] => input
  | s :: rest => walk? (input.bind fun v => v.step? s) rest

/-- Whether a step can be taken in a value: a name in an object, which need not have it, and a
    position in an array that is as long. -/
def Admits : Value → Segment → Prop
  | .object _, .field _ => True
  | .array items, .index position => position < items.length
  | _, _ => False

/-- All steps can be taken, each in the value that the steps before it lead to. -/
def Reaches (input : Option Value) (steps : List Segment) : Prop :=
  ∀ early s late, steps = early ++ s :: late → ∃ v, walk? input early = some v ∧ v.Admits s

theorem walk?_append (input : Option Value) (early late : List Segment) :
    walk? input (early ++ late) = walk? (walk? input early) late := by
  induction early generalizing input with
  | nil => rfl
  | cons s rest ih => exact ih (input.bind fun v => v.step? s)

theorem reaches_nil (input : Option Value) : Reaches input [] := by
  intro early s late h
  simp at h

/-- A walk that begins with a step that can be taken. -/
theorem Reaches.cons {v : Value} {s : Segment} {rest : List Segment} (hs : v.Admits s)
    (hrest : Reaches (v.step? s) rest) : Reaches (some v) (s :: rest) := by
  intro early t late h
  cases early with
  | nil =>
    obtain ⟨rfl, -⟩ := List.cons.inj h
    exact ⟨v, rfl, hs⟩
  | cons first early =>
    obtain ⟨rfl, hrest'⟩ := List.cons.inj h
    exact hrest early t late hrest'

/-! ## Walking down a pruning -/

theorem IsPruningOf.admits {v w : Value} (h : v.IsPruningOf w) {s : Segment} (hs : v.Admits s) :
    w.Admits s := by
  cases h with
  | array hlength =>
    cases s with
    | field name => exact hs
    | index position =>
      have hposition : position < _ := hs
      rw [hlength] at hposition
      exact hposition
  | object => cases s <;> exact hs
  | _ => exact hs

/-- A step in a pruning leads to a pruning of what it leads to in the original. -/
theorem IsPruningOf.step? {v w : Value} (h : v.IsPruningOf w) (s : Segment) :
    KeptIn (v.step? s) (w.step? s) := by
  intro x hx
  cases h with
  | array hlength hpruned =>
    cases s with
    | field name => cases hx
    | index position =>
      rename_i items originals
      have hitem : items[position]? = some x := hx
      have hposition : position < originals.length := by
        have := (List.getElem?_eq_some_iff.mp hitem).1
        omega
      have horiginal := List.getElem?_eq_getElem hposition
      exact ⟨originals[position], horiginal, hpruned position x _ hitem horiginal⟩
  | object hnamed hpruned =>
    cases s with
    | field name => exact isPruningOf_object_iff.mp (.object hnamed hpruned) name x hx
    | index position => cases hx
  | _ => cases s <;> cases hx

/-- So does a walk. -/
theorem KeptIn.walk? {a b : Option Value} (h : KeptIn a b) (steps : List Segment) :
    KeptIn (Value.walk? a steps) (Value.walk? b steps) := by
  induction steps generalizing a b with
  | nil => exact h
  | cons s rest ih =>
    refine ih fun x hx => ?_
    obtain ⟨v, hv, hstep⟩ := Option.bind_eq_some_iff.mp hx
    obtain ⟨w, hw, hvw⟩ := h v hv
    rw [hw]
    exact hvw.step? s x hstep

/-- A walk that can be taken in a pruning can be taken in the original. -/
theorem Reaches.of_keptIn {a b : Option Value} {steps : List Segment} (h : Reaches a steps)
    (hab : KeptIn a b) : Reaches b steps := by
  intro early s late hsteps
  obtain ⟨v, hv, hs⟩ := h early s late hsteps
  obtain ⟨w, hw, hvw⟩ := hab.walk? early v hv
  exact ⟨w, hw, hvw.admits hs⟩

end Value

end JsonValidation
