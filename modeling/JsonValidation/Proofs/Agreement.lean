import JsonValidation.Schema.Routine
import JsonValidation.Schema.Nodes

/-!
# Routines agree with the interpreter

A routine that is made from the interpreters of the children of a node is the interpreter of the node.
The two are written apart: a routine runs a list of checks and folds over routines made beforehand,
the interpreter walks the settings and the children.

* `firstViolation_append`, `firstViolation_toList`: what a list of checks finds, part by part.
* `StringSettings.routine_eq_interpret` and its like for numbers, booleans and literals.
* `routine_array`, `routine_object`, `routine_union`, `routine_pipe`: the composite nodes.
-/

namespace JsonValidation

/-! ## Lists of checks -/

theorem firstViolation_append {α : Type} (xs ys : List (Check α)) (input : α) :
    firstViolation (xs ++ ys) input = (firstViolation xs input).or (firstViolation ys input) :=
  List.findSome?_append

theorem firstViolation_toList {α β : Type} (c : Option β) (check : β → Check α) (input : α) :
    firstViolation (c.map check).toList input = c.bind (check · input) := by
  cases c with
  | none => rfl
  | some c => simp [firstViolation]

/-! ## Nodes without children -/

theorem StringSettings.firstViolation_checks (settings : StringSettings) (s : String) :
    firstViolation settings.checks s = settings.violation? s := by
  simp only [checks, firstViolation_append, firstViolation_toList, violation?]
  cases settings.minLen.bind (minLenViolation · s) <;>
    cases settings.maxLen.bind (maxLenViolation · s) <;> rfl

theorem StringSettings.routine_eq_interpret (settings : StringSettings) :
    settings.routine = settings.interpret := by
  funext input path
  simp only [routine, interpret, firstViolation_checks]

theorem NumberSettings.firstViolation_checks (settings : NumberSettings) (n : Binary64) :
    firstViolation settings.checks n = settings.violation? n := by
  simp only [checks, firstViolation_append, firstViolation_toList, violation?]
  cases settings.min.bind (minViolation · n) <;>
    cases settings.max.bind (maxViolation · n) <;>
    cases settings.positive.bind (positiveViolation · n) <;> rfl

theorem NumberSettings.routine_eq_interpret (settings : NumberSettings) :
    settings.routine = settings.interpret := by
  funext input path
  simp only [routine, interpret, firstViolation_checks]

theorem BooleanSettings.firstViolation_checks (settings : BooleanSettings) (b : Bool) :
    firstViolation settings.checks b = settings.violation? b := by
  simp only [checks, firstViolation_append, firstViolation_toList, violation?]
  cases settings.mustBeTrue.bind (mustBeTrueViolation · b) <;> rfl

theorem BooleanSettings.routine_eq_interpret (settings : BooleanSettings) :
    settings.routine = settings.interpret := by
  funext input path
  simp only [routine, interpret, firstViolation_checks]

/-! ## Arrays -/

theorem ArraySettings.firstViolation_checks (settings : ArraySettings) (length : Nat) :
    firstViolation settings.checks length = settings.violation? length := by
  simp only [checks, firstViolation_append, firstViolation_toList, violation?]
  cases settings.minLen.bind (minLenViolation · length) <;> rfl

/-- Going through numbered items is going through items and counting. -/
theorem mapM_zipIdx_eq_eachItem (check : Value → Path → Outcome Output) (path : Path) :
    ∀ (items : List Value) (start : Nat),
      (items.zipIdx start).mapM (fun (value, position) => check value (path.pushIndex position)) =
        eachItem check path start items := by
  intro items
  induction items with
  | nil => intro start; rfl
  | cons item rest ih =>
    intro start
    rw [List.zipIdx_cons, List.mapM_cons, ih, eachItem]
    dsimp only
    cases check item (path.pushIndex start) with
    | error failure => rfl
    | ok output => cases eachItem check path (start + 1) rest <;> rfl

theorem routine_array (slot : Slot) (element : Schema) (settings : ArraySettings) :
    settings.routine element.interpret = (Schema.array slot element settings).interpret := by
  funext input path
  rcases input with _ | value
  · rfl
  cases value with
  | array items =>
    have hitems := mapM_zipIdx_eq_eachItem (fun item => element.interpret (some item)) path items 0
    simp only [ArraySettings.routine, ArraySettings.firstViolation_checks, Schema.interpret]
    cases settings.violation? items.length with
    | some violation => rfl
    | none =>
      rw [hitems]
      cases eachItem (fun item => element.interpret (some item)) path 0 items <;> rfl
  | _ => rfl

/-! ## Objects -/

/-- What a routine of an object does for one field. -/
def Routine.addField (members : Members) (path : Path) (collected : Members)
    (field : String × Routine) : Outcome Members := do
  match ← field.2.values (Members.lookup field.1 members) (path.pushField field.1) with
  | some value => return Members.insert field.1 value collected
  | none => return collected

theorem Routine.addField_interpret (members : Members) (path : Path) (collected : Members)
    (name : String) (schema : Schema) :
    Routine.addField members path collected (name, schema.interpret) =
      (schema.interpret (Members.lookup name members) (path.pushField name)).map
        (collected.insertOutput name) := by
  unfold Routine.addField Routine.values
  dsimp only
  cases schema.interpret (Members.lookup name members) (path.pushField name) with
  | error failure => rfl
  | ok output =>
    show (match output.toValue? with
      | some value => pure (Members.insert name value collected)
      | none => pure collected : Outcome Members) = .ok (collected.insertOutput name output)
    unfold Members.insertOutput
    cases output.toValue? <;> rfl

/-- Folding over the fields is walking them, from any members that were collected so far. -/
theorem foldlM_addField_eq_interpretFields (fields : List (String × Schema)) (members : Members)
    (path : Path) :
    ∀ collected : Members,
      ((fields.map fun f => (f.1, f.2.interpret)).foldlM (Routine.addField members path)
        collected).map Output.object =
        Schema.interpretFields fields members path collected := by
  induction fields with
  | nil => intro collected; rfl
  | cons field rest ih =>
    obtain ⟨name, schema⟩ := field
    intro collected
    rw [Schema.interpretFields, List.map_cons, List.foldlM_cons, Routine.addField_interpret]
    cases schema.interpret (Members.lookup name members) (path.pushField name) with
    | error failure => rfl
    | ok output => exact ih (collected.insertOutput name output)

theorem routine_object (slot : Slot) (fields : List (String × Schema))
    (typeMessage : Option String) :
    Routine.object (fields.map fun f => (f.1, f.2.interpret)) typeMessage =
      (Schema.object slot fields typeMessage).interpret := by
  funext input path
  rcases input with _ | value
  · rfl
  cases value with
  | object members =>
    rw [Schema.interpret, ← foldlM_addField_eq_interpretFields]
    show (fields.map fun f => (f.1, f.2.interpret)).foldlM (Routine.addField members path) [] >>=
      (fun collected => pure (Output.object collected)) = _
    cases (fields.map fun f => (f.1, f.2.interpret)).foldlM (Routine.addField members path) [] <;>
      rfl
  | _ => rfl

/-! ## Unions -/

/-- Trying routines is trying their schemas, with the messages of earlier failures put in front. -/
theorem firstSuccess_eq_interpretAlternatives (alternatives : List Schema) (input : Option Value)
    (path : Path) :
    ∀ messages : List String,
      Routine.firstSuccess input path (alternatives.map Schema.interpret) messages =
        match Schema.interpretAlternatives alternatives input path with
        | .ok output => .ok output
        | .error later => exhausted (messages ++ later) input path := by
  induction alternatives with
  | nil => intro messages; simp [Routine.firstSuccess, Schema.interpretAlternatives]
  | cons schema rest ih =>
    intro messages
    rw [List.map_cons, Routine.firstSuccess, Schema.interpretAlternatives, Routine.values]
    cases schema.interpret input path with
    | ok output => rfl
    | error failure =>
      show Routine.firstSuccess input path (rest.map Schema.interpret)
        (messages ++ [failure.message]) = _
      rw [ih]
      cases Schema.interpretAlternatives rest input path with
      | ok output => rfl
      | error later => simp

theorem routine_union (slot : Slot) (alternatives : List Schema) :
    Routine.union (alternatives.map Schema.interpret) =
      (Schema.union slot alternatives).interpret := by
  funext input path
  rw [Schema.interpret, Routine.union, firstSuccess_eq_interpretAlternatives]
  rfl

/-! ## Wrappers -/

theorem routine_optional (slot : Slot) (inner : Schema) :
    Routine.optional inner.interpret = (Schema.optional slot inner).interpret := by
  funext input path
  cases input <;> rfl

theorem routine_nullable (slot : Slot) (inner : Schema) :
    Routine.nullable inner.interpret = (Schema.nullable slot inner).interpret := by
  funext input path
  rcases input with _ | value
  · rfl
  · cases value <;> rfl

theorem routine_refinement (slot : Slot) (inner : Schema) (accepts : Output → Bool)
    (message : String) :
    Routine.refinement inner.interpret accepts message =
      (Schema.refinement slot inner accepts message).interpret := rfl

theorem routine_pipe (slot : Slot) (first second : Schema) :
    Routine.pipe first.interpret second.interpret =
      (Schema.pipe slot first second).interpret := by
  funext input path
  rw [Schema.interpret, Routine.pipe, Routine.values]
  cases first.interpret input path <;> rfl

end JsonValidation
