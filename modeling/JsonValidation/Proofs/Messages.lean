import JsonValidation.Proofs.Replies

/-!
# Messages

The texts of a schema's author are messages and nothing else. A schema without them, its plain form,
accepts the same inputs with the same outputs, and refuses the others at the same place, for the same
reason and about the same value. Plain forms have no slots and no sharing either, so two schemas with
one plain form demand the same.

* `Schema.plain`: a schema without texts, slots and sharing.
* `Outcome.SameButMessage`: outcomes that differ in the message of a failure at most.
* `kind_violation?_plain`: a message does not change which constraint is violated.
* `Schema.interpret_plain`: the interpreter, for all schemas.
-/

namespace JsonValidation

/-! ## Plain forms -/

/-- The constraint without a message of its own. -/
def Constraint.plain {α : Type} (c : Constraint α) : Constraint α := ⟨c.value, none⟩

/-- The constraints without messages. It does not matter which of them was set last. -/
def StringSettings.plain (s : StringSettings) : StringSettings where
  minLen := s.minLen.map Constraint.plain
  maxLen := s.maxLen.map Constraint.plain
  pattern := s.pattern.map Constraint.plain

/-- The constraints without messages. -/
def NumberSettings.plain (s : NumberSettings) : NumberSettings where
  min := s.min.map Constraint.plain
  max := s.max.map Constraint.plain
  positive := s.positive.map Constraint.plain
  negative := s.negative.map Constraint.plain

/-- The constraints without messages. -/
def BooleanSettings.plain (s : BooleanSettings) : BooleanSettings where
  mustBeTrue := s.mustBeTrue.map Constraint.plain
  mustBeFalse := s.mustBeFalse.map Constraint.plain

/-- The constraints without messages. -/
def ArraySettings.plain (s : ArraySettings) : ArraySettings where
  minLen := s.minLen.map Constraint.plain
  maxLen := s.maxLen.map Constraint.plain

namespace Schema

mutual

/-- What a schema demands: the schema without texts and sharing, and with all nodes in one slot. -/
def plain : Schema → Schema
  | string _ settings => string 0 settings.plain
  | number _ settings => number 0 settings.plain
  | boolean _ settings => boolean 0 settings.plain
  | literal _ expected => literal 0 expected
  | array _ element settings => array 0 element.plain settings.plain
  | object _ fields _ => object 0 (plainFields fields) none
  | union _ alternatives => union 0 (plainAll alternatives)
  | optional _ inner => optional 0 inner.plain
  | nullable _ inner => nullable 0 inner.plain
  | refinement _ inner accepts _ => refinement 0 inner.plain accepts ""
  | pipe _ first second => pipe 0 first.plain second.plain
  | shared _ inner => inner.plain

/-- The fields of an object, each in its plain form. -/
def plainFields : List (String × Schema) → List (String × Schema)
  | [] => []
  | (name, schema) :: rest => (name, schema.plain) :: plainFields rest

/-- The alternatives of a union, each in its plain form. -/
def plainAll : List Schema → List Schema
  | [] => []
  | schema :: rest => schema.plain :: plainAll rest

end

end Schema

/-! ## Outcomes up to messages -/

/-- Failures at one place, of one kind and about one value. -/
structure Failure.SameButMessage (f g : Failure) : Prop where
  path : f.path = g.path
  kind : f.kind = g.kind
  got : f.got = g.got

/-- Outcomes that differ in the message of a failure at most. -/
def Outcome.SameButMessage {α : Type} (a b : Outcome α) : Prop :=
  (∃ o, a = .ok o ∧ b = .ok o) ∨ ∃ f g, a = .error f ∧ b = .error g ∧ f.SameButMessage g

namespace Outcome.SameButMessage

variable {α β : Type} {a b c : Outcome α}

protected theorem ok (o : α) : SameButMessage (.ok o : Outcome α) (.ok o) := .inl ⟨o, rfl, rfl⟩

protected theorem error {f g : Failure} (h : f.SameButMessage g) :
    SameButMessage (.error f : Outcome α) (.error g) := .inr ⟨f, g, rfl, rfl, h⟩

protected theorem refl (a : Outcome α) : a.SameButMessage a := by
  cases a with
  | ok o => exact .ok o
  | error f => exact .error ⟨rfl, rfl, rfl⟩

theorem symm (h : a.SameButMessage b) : b.SameButMessage a := by
  rcases h with ⟨o, rfl, rfl⟩ | ⟨f, g, rfl, rfl, hfg⟩
  · exact .ok o
  · exact .error ⟨hfg.path.symm, hfg.kind.symm, hfg.got.symm⟩

theorem trans (hab : a.SameButMessage b) (hbc : b.SameButMessage c) : a.SameButMessage c := by
  rcases hab with ⟨o, rfl, rfl⟩ | ⟨f, g, rfl, rfl, hfg⟩
  · exact hbc
  · rcases hbc with ⟨o, hg, -⟩ | ⟨g', h, hg, rfl, hgh⟩
    · cases hg
    · obtain rfl := Except.error.inj hg
      exact .error ⟨hfg.path.trans hgh.path, hfg.kind.trans hgh.kind, hfg.got.trans hgh.got⟩

theorem map (h : a.SameButMessage b) (f : α → β) : SameButMessage (a.map f) (b.map f) := by
  rcases h with ⟨o, rfl, rfl⟩ | ⟨f, g, rfl, rfl, hfg⟩
  · exact .ok _
  · exact .error hfg

protected theorem fail (path : Path) (kind : FailureKind) (message message' : String)
    (input : Option Value) :
    SameButMessage (Outcome.fail path kind message input : Outcome α)
      (Outcome.fail path kind message' input) := .error ⟨rfl, rfl, rfl⟩

protected theorem typeFailure (expected : String) (input : Option Value) (path : Path)
    (custom custom' : Option String) :
    SameButMessage (typeFailure expected input path custom : Outcome α)
      (typeFailure expected input path custom') := .fail ..

/-- Violations of one kind make failures that differ in their messages at most. -/
theorem checked {v w : Option Violation} {input : Option Value} {path : Path} :
    v.map Prod.fst = w.map Prod.fst → a.SameButMessage b →
    SameButMessage
      (match v with
        | some (kind, message) => Outcome.fail path kind message input
        | none => a)
      (match w with
        | some (kind, message) => Outcome.fail path kind message input
        | none => b) := by
  intro hkind hab
  cases v <;> cases w
  · exact hab
  · cases hkind
  · cases hkind
  · rename_i v w
    obtain ⟨kind, message⟩ := v
    obtain ⟨kind', message'⟩ := w
    obtain rfl : kind = kind' := Option.some.inj hkind
    exact .fail ..

end Outcome.SameButMessage

/-! ## Nodes without children -/

/-- What kind of violation a check finds does not depend on the message of its constraint. -/
def IgnoresMessage {α β : Type} (check : Constraint α → Check β) : Prop :=
  ∀ c x, (check c.plain x).map Prod.fst = (check c x).map Prod.fst

theorem IgnoresMessage.bind {α β : Type} {check : Constraint α → Check β} (h : IgnoresMessage check)
    (c : Option (Constraint α)) (x : β) :
    ((c.map Constraint.plain).bind (check · x)).map Prod.fst = (c.bind (check · x)).map Prod.fst := by
  cases c with
  | none => rfl
  | some c => exact h c x

theorem StringSettings.kind_violation?_plain (settings : StringSettings) (s : String) :
    (settings.plain.violation? s).map Prod.fst = (settings.violation? s).map Prod.fst := by
  obtain ⟨hmin, hmax, hpattern⟩ : IgnoresMessage minLenViolation ∧
      IgnoresMessage maxLenViolation ∧ IgnoresMessage patternViolation := by
    refine ⟨?_, ?_, ?_⟩ <;> rintro ⟨value, message⟩ s <;>
      dsimp only [minLenViolation, maxLenViolation, patternViolation, Constraint.plain] <;>
      split <;> rfl
  simp only [← firstViolation_checks, checks, firstViolation_append, firstViolation_toList,
    Option.map_or, plain, hmin.bind, hmax.bind, hpattern.bind]

theorem NumberSettings.kind_violation?_plain (settings : NumberSettings) (n : Binary64) :
    (settings.plain.violation? n).map Prod.fst = (settings.violation? n).map Prod.fst := by
  obtain ⟨hmin, hmax, hpositive, hnegative⟩ : IgnoresMessage minViolation ∧
      IgnoresMessage maxViolation ∧ IgnoresMessage positiveViolation ∧
      IgnoresMessage negativeViolation := by
    refine ⟨?_, ?_, ?_, ?_⟩ <;> rintro ⟨value, message⟩ n <;>
      dsimp only [minViolation, maxViolation, positiveViolation,
        negativeViolation, Constraint.plain] <;>
      split <;> rfl
  simp only [← firstViolation_checks, checks, firstViolation_append, firstViolation_toList,
    Option.map_or, plain, hmin.bind, hmax.bind, hpositive.bind, hnegative.bind]

theorem BooleanSettings.kind_violation?_plain (settings : BooleanSettings) (b : Bool) :
    (settings.plain.violation? b).map Prod.fst = (settings.violation? b).map Prod.fst := by
  obtain ⟨htrue, hfalse⟩ : IgnoresMessage mustBeTrueViolation ∧
      IgnoresMessage mustBeFalseViolation := by
    refine ⟨?_, ?_⟩ <;> rintro ⟨value, message⟩ b <;>
      dsimp only [mustBeTrueViolation, mustBeFalseViolation, Constraint.plain] <;>
      split <;> rfl
  simp only [← firstViolation_checks, checks, firstViolation_append, firstViolation_toList,
    Option.map_or, plain, htrue.bind, hfalse.bind]

theorem ArraySettings.kind_violation?_plain (settings : ArraySettings) (length : Nat) :
    (settings.plain.violation? length).map Prod.fst =
      (settings.violation? length).map Prod.fst := by
  obtain ⟨hmin, hmax⟩ : IgnoresMessage minLenViolation ∧ IgnoresMessage maxLenViolation := by
    refine ⟨?_, ?_⟩ <;> rintro ⟨value, message⟩ length <;>
      dsimp only [minLenViolation, maxLenViolation, Constraint.plain] <;>
      split <;> rfl
  simp only [← firstViolation_checks, checks, firstViolation_append, firstViolation_toList,
    Option.map_or, plain, hmin.bind, hmax.bind]

/-- A routine that does what another one does, up to messages. -/
def Routine.SameButMessage (r r' : Routine) : Prop :=
  ∀ input path, (r input path).SameButMessage (r' input path)

open Outcome

theorem StringSettings.interpret_plain (settings : StringSettings) :
    Routine.SameButMessage settings.plain.interpret settings.interpret := by
  intro input path
  unfold interpret
  split
  · rename_i s
    exact .checked (settings.kind_violation?_plain s) (.ok _)
  · exact .typeFailure ..

theorem NumberSettings.interpret_plain (settings : NumberSettings) :
    Routine.SameButMessage settings.plain.interpret settings.interpret := by
  intro input path
  unfold interpret
  split
  · rename_i n
    exact .checked (settings.kind_violation?_plain n.toBinary64) (.ok _)
  · exact .typeFailure ..

theorem BooleanSettings.interpret_plain (settings : BooleanSettings) :
    Routine.SameButMessage settings.plain.interpret settings.interpret := by
  intro input path
  unfold interpret
  split
  · rename_i b
    exact .checked (settings.kind_violation?_plain b) (.ok _)
  · exact .typeFailure ..

/-! ## Nodes with children -/

theorem eachItem_sameButMessage {check check' : Value → Path → Outcome Output}
    (hcheck : ∀ item path, (check item path).SameButMessage (check' item path)) (path : Path) :
    ∀ (items : List Value) (start : Nat),
      (eachItem check path start items).SameButMessage (eachItem check' path start items) := by
  intro items
  induction items with
  | nil => exact fun start => .ok []
  | cons item rest ih =>
    intro start
    rw [eachItem, eachItem]
    rcases hcheck item (path.pushIndex start) with ⟨output, h, h'⟩ | ⟨f, g, h, h', hfg⟩
    · rw [h, h']
      rcases ih (start + 1) with ⟨outputs, h, h'⟩ | ⟨f, g, h, h', hfg⟩
      · rw [h, h']
        exact .ok _
      · rw [h, h']
        exact .error hfg
    · rw [h, h']
      exact .error hfg

theorem refineOutcome_sameButMessage {a b : Outcome Output} (h : a.SameButMessage b)
    (accepts : Output → Bool) (message message' : String) (path : Path) :
    SameButMessage (refineOutcome accepts message path a)
      (refineOutcome accepts message' path b) := by
  rcases h with ⟨output, rfl, rfl⟩ | ⟨f, g, rfl, rfl, hfg⟩
  · rw [refineOutcome, refineOutcome]
    split
    · exact .ok output
    · exact .fail ..
  · exact .error hfg

namespace Schema

theorem interpretFields_plain (fields : List (String × Schema))
    (ih : ∀ f ∈ fields, f.2.plain.interpret.SameButMessage f.2.interpret) (members : Members)
    (path : Path) :
    ∀ collected : Members,
      (interpretFields (plainFields fields) members path collected).SameButMessage
        (interpretFields fields members path collected) := by
  induction fields with
  | nil => exact fun collected => .ok _
  | cons field rest ihRest =>
    obtain ⟨hfield, hrest⟩ := List.forall_mem_cons.mp ih
    obtain ⟨name, schema⟩ := field
    intro collected
    rw [plainFields, interpretFields, interpretFields]
    rcases hfield (Members.lookup name members) (path.pushField name) with
      ⟨output, h, h'⟩ | ⟨f, g, h, h', hfg⟩
    · rw [h, h']
      exact ihRest hrest (collected.insertOutput name output)
    · rw [h, h']
      exact .error hfg

/-- Which alternative succeeds, and with which output, does not depend on the messages of those that
    failed before. -/
theorem interpretAlternatives_plain (alternatives : List Schema)
    (ih : ∀ a ∈ alternatives, a.plain.interpret.SameButMessage a.interpret) (input : Option Value)
    (path : Path) :
    (∃ output, interpretAlternatives (plainAll alternatives) input path = .ok output ∧
      interpretAlternatives alternatives input path = .ok output) ∨
    ∃ messages messages', interpretAlternatives (plainAll alternatives) input path = .error messages ∧
      interpretAlternatives alternatives input path = .error messages' := by
  induction alternatives with
  | nil => exact .inr ⟨[], [], rfl, rfl⟩
  | cons schema rest ihRest =>
    obtain ⟨hschema, hrest⟩ := List.forall_mem_cons.mp ih
    rw [plainAll, interpretAlternatives, interpretAlternatives]
    rcases hschema input path with ⟨output, h, h'⟩ | ⟨f, g, h, h', -⟩ <;> rw [h, h']
    · exact .inl ⟨_, rfl, rfl⟩
    · rcases ihRest hrest with ⟨output, h, h'⟩ | ⟨messages, messages', h, h'⟩ <;> rw [h, h']
      · exact .inl ⟨output, rfl, rfl⟩
      · exact .inr ⟨_, _, rfl, rfl⟩

/-- **Messages.** A schema does what its plain form does, up to messages. -/
theorem interpret_plain (s : Schema) : s.plain.interpret.SameButMessage s.interpret := by
  induction s with
  | string slot settings => exact settings.interpret_plain
  | number slot settings => exact settings.interpret_plain
  | boolean slot settings => exact settings.interpret_plain
  | literal slot expected => exact fun input path => .refl _
  | array slot element settings ih =>
    intro input path
    rcases input with _ | value
    · exact .error ⟨rfl, rfl, rfl⟩
    cases value with
    | array items =>
      have hitems := eachItem_sameButMessage (fun item => ih (some item)) path items 0
      rw [plain, interpret, interpret]
      refine .checked (settings.kind_violation?_plain items.length) ?_
      rcases hitems with ⟨outputs, h, h'⟩ | ⟨f, g, h, h', hfg⟩ <;> rw [h, h']
      · exact .ok _
      · exact .error hfg
    | _ => exact .error ⟨rfl, rfl, rfl⟩
  | object slot fields typeMessage ih =>
    intro input path
    rcases input with _ | value
    · exact .error ⟨rfl, rfl, rfl⟩
    cases value with
    | object members => exact interpretFields_plain fields ih members path []
    | _ => exact .error ⟨rfl, rfl, rfl⟩
  | union slot alternatives ih =>
    intro input path
    rw [plain, interpret, interpret]
    rcases interpretAlternatives_plain alternatives ih input path with
      ⟨output, h, h'⟩ | ⟨messages, messages', h, h'⟩ <;> rw [h, h']
    · exact .ok output
    · exact .fail ..
  | optional slot inner ih =>
    intro input path
    rcases input with _ | value
    · exact .ok _
    · exact (ih (some value) path).map Output.present
  | nullable slot inner ih =>
    intro input path
    rcases input with _ | value
    · exact (ih none path).map Output.present
    cases value with
    | null => exact .ok _
    | _ => exact (ih _ path).map Output.present
  | refinement slot inner accepts message ih =>
    intro input path
    exact refineOutcome_sameButMessage (ih input path) accepts _ message path
  | pipe slot first second ihFirst ihSecond =>
    intro input path
    rw [plain, interpret, interpret]
    rcases ihFirst input path with ⟨output, h, h'⟩ | ⟨f, g, h, h', hfg⟩
    · rw [h, h']
      exact ihSecond output.toValue? path
    · rw [h, h']
      exact .error hfg
  | shared access inner ih => exact ih

end Schema

end JsonValidation
