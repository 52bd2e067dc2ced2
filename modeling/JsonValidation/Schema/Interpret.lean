import JsonValidation.Schema.Basic

/-!
# Interpreting a schema

The interpreter walks a schema and an input together. Objects hand each declared member to its field,
arrays hand each item to the element schema, both up to the first failure; a union returns the first
success of its alternatives.

* `Schema.interpret`: the outcome of an input, present or not, that stands at a path.
-/

namespace JsonValidation

/-- The outcome of each item of an array, from a position on, up to the first failure: the loop of
    `ArraySchema::interpret`. -/
def eachItem (check : Value → Path → Outcome Output) (path : Path) :
    Nat → List Value → Outcome (List Output)
  | _, [] => .ok []
  | position, item :: rest =>
    match check item (path.pushIndex position) with
    | .error failure => .error failure
    | .ok output =>
      match eachItem check path (position + 1) rest with
      | .error failure => .error failure
      | .ok outputs => .ok (output :: outputs)

/-- What a refinement makes of the outcome of its inner schema (`combinators::refine_output`): an output
    that the predicate does not accept becomes a failure with the value of that output. -/
@[grind =]
def refineOutcome (accepts : Output → Bool) (message : String) (path : Path) :
    Outcome Output → Outcome Output
  | .ok output =>
    if accepts output then .ok output
    else Outcome.fail path .refinementFailed message output.toValue?
  | .error failure => .error failure

/-- The members of an object after one field was validated, as the loop of `ObjectSchema::interpret`
    leaves them. -/
def Members.insertOutput (members : Members) (name : String) (output : Output) : Members :=
  match output.toValue? with
  | some value => Members.insert name value members
  | none => members

/-- The failure of a union, with the messages of all its alternatives (`union::exhausted`). -/
def exhausted (messages : List String) (input : Option Value) (path : Path) : Outcome Output :=
  Outcome.fail path .unionExhausted (Text.join "; " messages) input

namespace Schema

mutual

/-- The outcome of an input that stands at a path. Each case is `SchemaLike::interpret` of one kind of
    node; a shared node has that of the node behind it. -/
@[grind =]
def interpret : Schema → Routine
  | string _ settings, input, path => settings.interpret input path
  | number _ settings, input, path => settings.interpret input path
  | boolean _ settings, input, path => settings.interpret input path
  | literal _ expected, input, path => expected.validate input path
  | array _ element settings, input, path =>
    match input with
    | some (.array items) =>
      match settings.violation? items.length with
      | some (kind, message) => Outcome.fail path kind message input
      | none =>
        match eachItem (fun item => interpret element (some item)) path 0 items with
        | .ok outputs => .ok (.array outputs)
        | .error failure => .error failure
    | _ => typeFailure "array" input path settings.typeMessage
  | object _ fields typeMessage, input, path =>
    match input with
    | some (.object members) => interpretFields fields members path []
    | _ => typeFailure "object" input path typeMessage
  | union _ alternatives, input, path =>
    match interpretAlternatives alternatives input path with
    | .ok output => .ok output
    | .error messages => exhausted messages input path
  | optional _ inner, input, path =>
    match input with
    | none => .ok .absent
    | some _ => (interpret inner input path).map .present
  | nullable _ inner, input, path =>
    match input with
    | some .null => .ok .null
    | _ => (interpret inner input path).map .present
  | refinement _ inner accepts message, input, path =>
    refineOutcome accepts message path (interpret inner input path)
  | pipe _ first second, input, path =>
    match interpret first input path with
    | .ok output => interpret second output.toValue? path
    | .error failure => .error failure
  | shared _ inner, input, path => interpret inner input path

/-- Validates the declared members of an object one by one, adding what they stand for to the members
    collected so far: the loop of `ObjectSchema::interpret`. -/
def interpretFields : List (String × Schema) → Members → Path → Members → Outcome Output
  | [], _, _, collected => .ok (.object collected)
  | (name, schema) :: rest, members, path, collected =>
    match interpret schema (Members.lookup name members) (path.pushField name) with
    | .ok output => interpretFields rest members path (collected.insertOutput name output)
    | .error failure => .error failure

/-- The output of the first alternative that succeeds, or else the messages of all of them: the loop of
    `UnionSchema::interpret`. -/
def interpretAlternatives : List Schema → Option Value → Path → Except (List String) Output
  | [], _, _ => .error []
  | schema :: rest, input, path =>
    match interpret schema input path with
    | .ok output => .ok (.ofValue? output.toValue?)
    | .error failure =>
      match interpretAlternatives rest input path with
      | .ok output => .ok output
      | .error messages => .error (failure.message :: messages)

end

/-- A routine that interprets the schema anew on every input (`compile::interpreted`). -/
def fallback (s : Schema) : Routine := fun input path => s.interpret input path

end Schema

end JsonValidation
