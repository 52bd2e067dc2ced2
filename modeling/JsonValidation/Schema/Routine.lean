import JsonValidation.Schema.Interpret

/-!
# Routines of composite nodes

Each composite node has a routine that is made from the routines of its children, so that running it
never looks at the schema again.
-/

namespace JsonValidation.Routine

/-- The values that a routine returns in place of its outputs (`ValueValidator::compile_value`). -/
def values (r : Routine) (input : Option Value) (path : Path) : Outcome (Option Value) :=
  (r input path).map Output.toValue?

/-- An object: its fields in their order, up to the first failure. What `ObjectSchema::build_routine`
    makes of the routines of the fields. -/
def object (fields : List (String × Routine)) (typeMessage : Option String) : Routine :=
  fun input path =>
    match input with
    | some (.object members) => do
      let collected ← fields.foldlM (fun collected (name, field) => do
        match ← field.values (Members.lookup name members) (path.pushField name) with
        | some value => return Members.insert name value collected
        | none => return collected) ([] : Members)
      return .object collected
    | _ => typeFailure "object" input path typeMessage

/-- Tries routines one after the other, with the messages of those that failed before: the loop of
    the routine that `UnionSchema::build_routine` makes. -/
def firstSuccess (input : Option Value) (path : Path) :
    List Routine → List String → Outcome Output
  | [], messages => exhausted messages input path
  | r :: rest, messages =>
    match r.values input path with
    | .ok value => .ok (.ofValue? value)
    | .error failure => firstSuccess input path rest (messages ++ [failure.message])

/-- A union: the first alternative that succeeds (`UnionSchema::build_routine`). -/
def union (alternatives : List Routine) : Routine :=
  fun input path => firstSuccess input path alternatives []

/-- An optional value: absence is accepted, and everything else is left to the inner routine
    (`OptionalSchema::build_routine`). -/
def optional (inner : Routine) : Routine := fun input path =>
  match input with
  | none => .ok .absent
  | some _ => (inner input path).map .present

/-- A nullable value: null is accepted, and everything else is left to the inner routine
    (`NullableSchema::build_routine`). -/
def nullable (inner : Routine) : Routine := fun input path =>
  match input with
  | some .null => .ok .null
  | _ => (inner input path).map .present

/-- A refinement: the predicate looks at the output of the inner routine
    (`RefinedSchema::build_routine`). -/
def refinement (inner : Routine) (accepts : Output → Bool) (message : String) : Routine :=
  fun input path => refineOutcome accepts message path (inner input path)

/-- A pipe: the value that the first routine returns is the input of the second one
    (`PipeSchema::build_routine`). -/
def pipe (first second : Routine) : Routine := fun input path => do
  second (← first.values input path) path

end JsonValidation.Routine
