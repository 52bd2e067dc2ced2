import JsonValidation.Schema.Interpret
import JsonValidation.Schema.Nodes

/-!
# What an outcome tells

An outcome of a node says what its input was and what the children of the node made of it. Failures
of a node itself are about its input, and all others come from a child.

* `Failure.IsAbout`: a failure that stands where an input stands and has the input as its offending
  value.
* `StringSettings.interpret_eq_ok` and its like: the outcomes of nodes without children.
* `eachItem_eq_ok`, `interpretFields_invariant`, `interpretAlternatives_eq_ok`: the loops over items,
  fields and alternatives.
* `interpret_array_eq_ok`, `interpret_array_eq_error` and their like: the outcomes of composite nodes.
-/

namespace JsonValidation

/-- The failure is about an input that stands at a path. -/
def Failure.IsAbout (f : Failure) (input : Option Value) (path : Path) : Prop :=
  f.path = path ∧ f.got = input

variable {input : Option Value} {path : Path} {f : Failure} {o : Output}

theorem Outcome.isAbout_of_fail {α : Type} {kind : FailureKind} {message : String}
    (h : (Outcome.fail path kind message input : Outcome α) = .error f) : f.IsAbout input path := by
  cases h
  exact ⟨rfl, rfl⟩

theorem isAbout_of_typeFailure {α : Type} {expected : String} {custom : Option String}
    (h : (typeFailure expected input path custom : Outcome α) = .error f) :
    f.IsAbout input path := Outcome.isAbout_of_fail h

theorem isAbout_of_checked {α : Type} {violation : Option Violation} {a : α}
    (h : (match violation with
      | some (kind, message) => Outcome.fail path kind message input
      | none => .ok a) = .error f) : f.IsAbout input path := by
  cases violation with
  | none => cases h
  | some violation => exact Outcome.isAbout_of_fail h

theorem typeFailure_ne_ok {α : Type} {expected : String} {custom : Option String} {a : α} :
    typeFailure expected input path custom ≠ .ok a := by
  intro h
  cases h

/-! ## Nodes without children -/

namespace StringSettings

variable {settings : StringSettings}

theorem interpret_eq_ok : settings.interpret input path = .ok o ↔
    ∃ s, input = some (.string s) ∧ settings.violation? s = none ∧ o = .string s := by
  unfold interpret
  split
  · rename_i s
    cases hviolation : settings.violation? s with
    | none => simp [hviolation, eq_comm]
    | some violation => simp [hviolation, Outcome.fail]
  · rename_i hinput
    constructor
    · intro h
      exact absurd h typeFailure_ne_ok
    · rintro ⟨s, rfl, -⟩
      exact absurd rfl (hinput s)

theorem isAbout_of_interpret (h : settings.interpret input path = .error f) :
    f.IsAbout input path := by
  unfold interpret at h
  split at h
  · exact isAbout_of_checked h
  · exact isAbout_of_typeFailure h

end StringSettings

namespace NumberSettings

variable {settings : NumberSettings}

/-- The settings are looked at in turn. -/
theorem violation?_eq_or (n : Binary64) :
    settings.violation? n = (settings.min.bind (minViolation · n)).or
      ((settings.max.bind (maxViolation · n)).or
        ((settings.positive.bind (positiveViolation · n)).or
          (settings.negative.bind (negativeViolation · n)))) := by
  rw [violation?]
  cases settings.min.bind (minViolation · n) with
  | some violation => rfl
  | none =>
    cases settings.max.bind (maxViolation · n) with
    | some violation => rfl
    | none => cases settings.positive.bind (positiveViolation · n) <;> rfl

theorem interpret_eq_ok : settings.interpret input path = .ok o ↔
    ∃ n, input = some (.number n) ∧ settings.violation? n.toBinary64 = none ∧ o = .number n := by
  unfold interpret
  split
  · rename_i n
    cases hviolation : settings.violation? n.toBinary64 with
    | none => simp [hviolation, eq_comm]
    | some violation => simp [hviolation, Outcome.fail]
  · rename_i hinput
    constructor
    · intro h
      exact absurd h typeFailure_ne_ok
    · rintro ⟨n, rfl, -⟩
      exact absurd rfl (hinput n)

theorem isAbout_of_interpret (h : settings.interpret input path = .error f) :
    f.IsAbout input path := by
  unfold interpret at h
  split at h
  · exact isAbout_of_checked h
  · exact isAbout_of_typeFailure h

end NumberSettings

namespace BooleanSettings

variable {settings : BooleanSettings}

theorem interpret_eq_ok : settings.interpret input path = .ok o ↔
    ∃ b, input = some (.bool b) ∧ settings.violation? b = none ∧ o = .bool b := by
  unfold interpret
  split
  · rename_i b
    cases hviolation : settings.violation? b with
    | none => simp [hviolation, eq_comm]
    | some violation => simp [hviolation, Outcome.fail]
  · rename_i hinput
    constructor
    · intro h
      exact absurd h typeFailure_ne_ok
    · rintro ⟨b, rfl, -⟩
      exact absurd rfl (hinput b)

theorem isAbout_of_interpret (h : settings.interpret input path = .error f) :
    f.IsAbout input path := by
  unfold interpret at h
  split at h
  · exact isAbout_of_checked h
  · exact isAbout_of_typeFailure h

end BooleanSettings

namespace Literal

variable {expected : Literal}

theorem validate_eq_ok : expected.validate input path = .ok o ↔
    ∃ v, input = some v ∧ expected.accepts v ∧ o = .value v := by
  unfold validate
  split
  · simp [typeFailure_ne_ok]
  · rename_i actual
    split
    · rename_i haccepts
      constructor
      · intro h
        exact ⟨actual, rfl, haccepts, (Except.ok.inj h).symm⟩
      · rintro ⟨v, hv, -, rfl⟩
        rw [Option.some.inj hv]
    · rename_i hrefused
      constructor
      · intro h
        cases h
      · rintro ⟨v, hv, haccepts, -⟩
        rw [← Option.some.inj hv] at haccepts
        exact absurd haccepts hrefused

theorem isAbout_of_validate (h : expected.validate input path = .error f) :
    f.IsAbout input path := by
  unfold validate at h
  split at h
  · exact isAbout_of_typeFailure h
  · split at h
    · cases h
    · exact Outcome.isAbout_of_fail h

end Literal

/-! ## Items, fields and alternatives -/

section Items

variable {check : Value → Path → Outcome Output}

/-- All items succeed exactly when there are as many outputs and each item has its output. -/
theorem eachItem_eq_ok {items : List Value} {start : Nat} {outputs : List Output} :
    eachItem check path start items = .ok outputs ↔ outputs.length = items.length ∧
      ∀ (i : Nat) item output, items[i]? = some item → outputs[i]? = some output →
        check item (path.pushIndex (start + i)) = .ok output := by
  induction items generalizing start outputs with
  | nil =>
    rw [eachItem]
    cases outputs <;> simp
  | cons item rest ih =>
    rw [eachItem]
    constructor
    · intro h
      split at h
      · cases h
      · rename_i first hfirst
        split at h
        · cases h
        · rename_i later hlater
          obtain rfl := Except.ok.inj h
          obtain ⟨hlength, hrest⟩ := ih.mp hlater
          refine ⟨by simp [hlength], fun i v output hv houtput => ?_⟩
          cases i with
          | zero =>
            obtain rfl := Option.some.inj hv
            obtain rfl := Option.some.inj houtput
            exact hfirst
          | succ i =>
            have hstep := hrest i v output hv houtput
            rwa [Nat.add_right_comm, Nat.add_assoc] at hstep
    · rintro ⟨hlength, hall⟩
      cases outputs with
      | nil => simp at hlength
      | cons first later =>
        have hfirst : check item (path.pushIndex start) = .ok first := hall 0 item first rfl rfl
        have hlater : eachItem check path (start + 1) rest = .ok later := by
          refine ih.mpr ⟨by simpa using hlength, fun i v output hv houtput => ?_⟩
          have hstep := hall (i + 1) v output hv houtput
          rwa [← Nat.add_assoc, Nat.add_right_comm] at hstep
        rw [hfirst, hlater]

/-- A failure of the items is the failure of one of them. -/
theorem exists_of_eachItem_eq_error {items : List Value} {start : Nat}
    (h : eachItem check path start items = .error f) :
    ∃ (i : Nat) (item : Value), items[i]? = some item ∧
      check item (path.pushIndex (start + i)) = .error f := by
  induction items generalizing start with
  | nil => cases h
  | cons item rest ih =>
    rw [eachItem] at h
    split at h
    · rename_i failure hfirst
      obtain rfl := Except.error.inj h
      exact ⟨0, item, rfl, hfirst⟩
    · split at h
      · rename_i failure hlater
        obtain rfl := Except.error.inj h
        obtain ⟨i, v, hv, hi⟩ := ih hlater
        refine ⟨i + 1, v, hv, ?_⟩
        rwa [← Nat.add_assoc, Nat.add_right_comm]
      · cases h

end Items

namespace Schema

/-- What holds of the members collected so far, and is kept by every field that succeeds, holds of the
    members of the output. -/
theorem interpretFields_invariant {P : Members → Prop} {fields : List (String × Schema)}
    {members collected : Members}
    (hstep : ∀ field ∈ fields, ∀ collected output, P collected →
      field.2.interpret (Members.lookup field.1 members) (path.pushField field.1) = .ok output →
        P (collected.insertOutput field.1 output))
    (hstart : P collected) (h : interpretFields fields members path collected = .ok o) :
    ∃ out, o = .object out ∧ P out := by
  induction fields generalizing collected with
  | nil =>
    rw [interpretFields] at h
    exact ⟨collected, (Except.ok.inj h).symm, hstart⟩
  | cons field rest ih =>
    obtain ⟨name, schema⟩ := field
    rw [interpretFields] at h
    split at h
    · rename_i output hfield
      refine ih (fun field hfield => hstep field (List.mem_cons_of_mem _ hfield)) ?_ h
      exact hstep (name, schema) List.mem_cons_self collected output hstart hfield
    · cases h

/-- A failure of the fields is the failure of one of them. -/
theorem exists_of_interpretFields_eq_error {fields : List (String × Schema)}
    {members collected : Members}
    (h : interpretFields fields members path collected = .error f) :
    ∃ field ∈ fields,
      field.2.interpret (Members.lookup field.1 members) (path.pushField field.1) = .error f := by
  induction fields generalizing collected with
  | nil => cases h
  | cons field rest ih =>
    obtain ⟨name, schema⟩ := field
    rw [interpretFields] at h
    split at h
    · obtain ⟨field, hfield, hf⟩ := ih h
      exact ⟨field, List.mem_cons_of_mem _ hfield, hf⟩
    · rename_i failure hfield
      obtain rfl := Except.error.inj h
      exact ⟨(name, schema), List.mem_cons_self, hfield⟩

/-- The output of a union is the value of an output of one of its alternatives. -/
theorem exists_of_interpretAlternatives_eq_ok {alternatives : List Schema}
    (h : interpretAlternatives alternatives input path = .ok o) :
    ∃ a ∈ alternatives, ∃ output, a.interpret input path = .ok output ∧
      o = .ofValue? output.toValue? := by
  induction alternatives with
  | nil => cases h
  | cons a rest ih =>
    rw [interpretAlternatives] at h
    split at h
    · rename_i output ha
      exact ⟨a, List.mem_cons_self, output, ha, (Except.ok.inj h).symm⟩
    · split at h
      · rename_i failure ha output hrest
        obtain rfl := Except.ok.inj h
        obtain ⟨b, hb, houtput⟩ := ih hrest
        exact ⟨b, List.mem_cons_of_mem _ hb, houtput⟩
      · cases h

/-! ## Composite nodes -/

section Composite

variable {slot : Slot} {element inner first second : Schema} {settings : ArraySettings}
  {fields : List (String × Schema)} {typeMessage : Option String} {alternatives : List Schema}
  {accepts : Output → Bool} {message : String}

theorem interpret_array_eq_ok : (array slot element settings).interpret input path = .ok o ↔
    ∃ items outputs, input = some (.array items) ∧ settings.violation? items.length = none ∧
      eachItem (fun item => element.interpret (some item)) path 0 items = .ok outputs ∧
        o = .array outputs := by
  rw [interpret.eq_def]
  dsimp only
  split
  · rename_i items
    cases hviolation : settings.violation? items.length with
    | some violation => simp [hviolation, Outcome.fail]
    | none =>
      cases hitems : eachItem (fun item => element.interpret (some item)) path 0 items with
      | error failure => simp [hitems]
      | ok outputs => simp [hviolation, hitems, eq_comm]
  · rename_i hinput
    constructor
    · intro h
      exact absurd h typeFailure_ne_ok
    · rintro ⟨items, outputs, rfl, -⟩
      exact absurd rfl (hinput items)

theorem interpret_array_eq_error (h : (array slot element settings).interpret input path = .error f) :
    f.IsAbout input path ∨ ∃ items, input = some (.array items) ∧
      eachItem (fun item => element.interpret (some item)) path 0 items = .error f := by
  rw [interpret.eq_def] at h
  dsimp only at h
  split at h
  · rename_i items
    split at h
    · exact .inl (Outcome.isAbout_of_fail h)
    · split at h
      · cases h
      · rename_i failure hitems
        obtain rfl := Except.error.inj h
        exact .inr ⟨items, rfl, hitems⟩
  · exact .inl (isAbout_of_typeFailure h)

theorem interpret_object_eq_ok : (object slot fields typeMessage).interpret input path = .ok o ↔
    ∃ members, input = some (.object members) ∧ interpretFields fields members path [] = .ok o := by
  rw [interpret.eq_def]
  dsimp only
  split
  · simp
  · rename_i hinput
    constructor
    · intro h
      exact absurd h typeFailure_ne_ok
    · rintro ⟨members, rfl, -⟩
      exact absurd rfl (hinput members)

theorem interpret_object_eq_error
    (h : (object slot fields typeMessage).interpret input path = .error f) :
    f.IsAbout input path ∨ ∃ members, input = some (.object members) ∧
      interpretFields fields members path [] = .error f := by
  rw [interpret.eq_def] at h
  dsimp only at h
  split at h
  · exact .inr ⟨_, rfl, h⟩
  · exact .inl (isAbout_of_typeFailure h)

theorem interpret_union_eq_ok (h : (union slot alternatives).interpret input path = .ok o) :
    ∃ a ∈ alternatives, ∃ output, a.interpret input path = .ok output ∧
      o = .ofValue? output.toValue? := by
  rw [interpret] at h
  split at h
  · rename_i output houtput
    obtain rfl := Except.ok.inj h
    exact exists_of_interpretAlternatives_eq_ok houtput
  · cases h

theorem interpret_union_eq_error (h : (union slot alternatives).interpret input path = .error f) :
    f.IsAbout input path := by
  rw [interpret] at h
  split at h
  · cases h
  · exact Outcome.isAbout_of_fail h

theorem map_eq_ok {α β : Type} {outcome : Outcome α} {g : α → β} {b : β} :
    outcome.map g = .ok b ↔ ∃ a, outcome = .ok a ∧ b = g a := by
  cases outcome with
  | error failure => simp [Except.map]
  | ok a => simp [Except.map, eq_comm]

theorem map_eq_error {α β : Type} {outcome : Outcome α} {g : α → β} :
    outcome.map g = .error f ↔ outcome = .error f := by
  cases outcome <;> simp [Except.map]

theorem interpret_optional_eq_ok : (optional slot inner).interpret input path = .ok o ↔
    (input = none ∧ o = .absent) ∨
      ∃ v output, input = some v ∧ inner.interpret (some v) path = .ok output ∧
        o = .present output := by
  rw [interpret.eq_def]
  dsimp only
  split
  · simp [eq_comm]
  · simp [map_eq_ok]

theorem interpret_optional_eq_error : (optional slot inner).interpret input path = .error f ↔
    input ≠ none ∧ inner.interpret input path = .error f := by
  rw [interpret.eq_def]
  dsimp only
  split
  · simp
  · simp [map_eq_error]

theorem interpret_nullable_eq_ok : (nullable slot inner).interpret input path = .ok o ↔
    (input = some .null ∧ o = .null) ∨
      ∃ output, input ≠ some .null ∧ inner.interpret input path = .ok output ∧
        o = .present output := by
  rw [interpret.eq_def]
  dsimp only
  split
  · simp [eq_comm]
  · rename_i hinput
    have hne : input ≠ some .null := hinput
    simp [map_eq_ok, hne]

theorem interpret_nullable_eq_error : (nullable slot inner).interpret input path = .error f ↔
    input ≠ some .null ∧ inner.interpret input path = .error f := by
  rw [interpret.eq_def]
  dsimp only
  split
  · simp
  · rename_i hinput
    have hne : input ≠ some .null := hinput
    simp [map_eq_error, hne]

theorem interpret_refinement_eq_ok :
    (refinement slot inner accepts message).interpret input path = .ok o ↔
      inner.interpret input path = .ok o ∧ accepts o := by
  cases hinner : inner.interpret input path with
  | error failure => grind
  | ok output => grind [Outcome.fail]

theorem interpret_refinement_eq_error :
    (refinement slot inner accepts message).interpret input path = .error f ↔
      inner.interpret input path = .error f ∨
        ∃ output, inner.interpret input path = .ok output ∧ accepts output = false ∧
          f = ⟨path, .refinementFailed, message, output.toValue?⟩ := by
  cases hinner : inner.interpret input path with
  | error failure => grind
  | ok output => grind [Outcome.fail]

theorem interpret_pipe_eq_ok : (pipe slot first second).interpret input path = .ok o ↔
    ∃ output, first.interpret input path = .ok output ∧
      second.interpret output.toValue? path = .ok o := by
  rw [interpret]
  cases first.interpret input path <;> simp

theorem interpret_pipe_eq_error : (pipe slot first second).interpret input path = .error f ↔
    first.interpret input path = .error f ∨
      ∃ output, first.interpret input path = .ok output ∧
        second.interpret output.toValue? path = .error f := by
  rw [interpret]
  cases first.interpret input path <;> simp

end Composite

end Schema

end JsonValidation
