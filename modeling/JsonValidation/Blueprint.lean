import JsonValidation.Schema.Build

/-!
# Blueprints of schemas

A blueprint says how to build a schema: a base, and builder calls on top of it. It can refer to nodes
that already exist, by value or as the same shared node.

* `Blueprint.build`: the schema that a blueprint makes, or the reason why it makes none.
-/

namespace JsonValidation

/-- How patterns are read: the texts that a pattern matches, or nothing if it is malformed. -/
abbrev PatternDialect := String → Option (String → Bool)

/-- Why a blueprint makes no schema. -/
inductive BuildError where
  /-- A pattern is malformed. -/
  | pattern
  /-- A literal is an infinite number or not a number. -/
  | literal
  | unknownSchema (name : String)
  | notRegistered
  /-- A builder call does not apply to the node it is made on. -/
  | notApplicable
deriving DecidableEq

/-- What blueprints can refer to. -/
structure Surroundings where
  dialect : PatternDialect
  defined? : String → Option Schema
  registered? : String → Option Schema

/-- How to build a schema. -/
inductive Blueprint where
  | string (minLen maxLen : Option Nat) (pattern : Option String)
  | number (options : NumberOptions)
  | boolean (options : BooleanOptions)
  | literal (expected : Literal)
  /-- A literal given as a binary64 number, which has to be finite. -/
  | literalFloat (x : Binary64)
  | array (element : Blueprint) (options : ArrayOptions)
  | object (shape : List (String × Blueprint))
  | union (alternatives : List Blueprint)
  /-- A copy of the node with a name. -/
  | copyOf (name : String)
  /-- The node with a name itself. -/
  | share (name : String)
  /-- The node that is registered under a name. -/
  | registered (name : String)
  | set (receiver : Blueprint) (setting : Setting)
  /-- Demands a match of a pattern that is yet to be read. -/
  | setPattern (receiver : Blueprint) (source : String)
  | field (receiver : Blueprint) (name : String) (schema : Blueprint)
  | optionalField (receiver : Blueprint) (name : String) (schema : Blueprint)
  | extend (receiver other : Blueprint)
  | alternative (receiver schema : Blueprint)
  | optional (receiver : Blueprint)
  | nullable (receiver : Blueprint)
  | refine (receiver : Blueprint) (accepts : Output → Bool) (message : Option String)
  | pipe (receiver next : Blueprint)

namespace Blueprint

/-- The pattern with a source text. -/
def readPattern (env : Surroundings) (source : String) : Except BuildError Pattern :=
  match env.dialect source with
  | some accepts => .ok ⟨source, accepts⟩
  | none => .error .pattern

/-- The pattern with a source text, if there is one. -/
def readPattern? (env : Surroundings) : Option String → Except BuildError (Option Pattern)
  | some source => return some (← readPattern env source)
  | none => return none

/-- The result of a builder call. -/
def applied : Option (Schema × Store) → Except BuildError (Schema × Store)
  | some result => .ok result
  | none => .error .notApplicable

mutual

/-- Builds the schema of a blueprint. What a call is made on is built before its arguments. -/
def build (env : Surroundings) : Blueprint → Store → Except BuildError (Schema × Store)
  | string minLen maxLen pattern, σ => do
    let settings := StringSettings.ofOptions ⟨minLen, maxLen, ← readPattern? env pattern⟩
    return Schema.create σ fun slot => .string slot settings
  | number options, σ => .ok (Schema.create σ fun slot => .number slot (.ofOptions options))
  | boolean options, σ => .ok (Schema.create σ fun slot => .boolean slot (.ofOptions options))
  | literal expected, σ => .ok (Schema.create σ fun slot => .literal slot expected)
  | literalFloat x, σ =>
    match Literal.ofBinary64? x with
    | some expected => .ok (Schema.create σ fun slot => .literal slot expected)
    | none => .error .literal
  | array element options, σ => do
    let (element, σ) ← build env element σ
    return Schema.create σ fun slot => .array slot element (.ofOptions options)
  | object shape, σ => do
    let (fields, σ) ← buildFields env shape σ
    return Schema.create σ fun slot => .object slot (Shape.ofList fields) none
  | union alternatives, σ => do
    let (alternatives, σ) ← buildAll env alternatives σ
    return Schema.create σ fun slot => .union slot alternatives
  | copyOf name, σ =>
    match env.defined? name with
    | some schema => .ok (schema.copy σ)
    | none => .error (.unknownSchema name)
  | share name, σ =>
    match env.defined? name with
    | some schema => .ok (.shared .direct schema, σ)
    | none => .error (.unknownSchema name)
  | registered name, σ =>
    match env.registered? name with
    | some schema => .ok (.shared .registry schema, σ)
    | none => .error .notRegistered
  | set receiver setting, σ => do
    let (schema, σ) ← build env receiver σ
    applied (schema.set setting σ)
  | setPattern receiver source, σ => do
    let (schema, σ) ← build env receiver σ
    applied (schema.set (.pattern (← readPattern env source)) σ)
  | field receiver name schema, σ => do
    let (target, σ) ← build env receiver σ
    let (schema, σ) ← build env schema σ
    applied (target.addField name schema σ)
  | optionalField receiver name schema, σ => do
    let (target, σ) ← build env receiver σ
    let (schema, σ) ← build env schema σ
    applied (target.addOptionalField name schema σ)
  | extend receiver other, σ => do
    let (target, σ) ← build env receiver σ
    let (other, σ) ← build env other σ
    applied (target.extend other σ)
  | alternative receiver schema, σ => do
    let (target, σ) ← build env receiver σ
    let (schema, σ) ← build env schema σ
    applied (target.addAlternative schema σ)
  | optional receiver, σ => do
    let (schema, σ) ← build env receiver σ
    return schema.asOptional σ
  | nullable receiver, σ => do
    let (schema, σ) ← build env receiver σ
    return schema.asNullable σ
  | refine receiver accepts message, σ => do
    let (schema, σ) ← build env receiver σ
    return schema.refine accepts (message.getD Schema.defaultRefinementMessage) σ
  | pipe receiver next, σ => do
    let (schema, σ) ← build env receiver σ
    let (next, σ) ← build env next σ
    return schema.pipeTo next σ

/-- Builds the fields of a shape in their order. -/
def buildFields (env : Surroundings) :
    List (String × Blueprint) → Store → Except BuildError (List (String × Schema) × Store)
  | [], σ => .ok ([], σ)
  | (name, blueprint) :: rest, σ => do
    let (schema, σ) ← build env blueprint σ
    let (fields, σ) ← buildFields env rest σ
    return ((name, schema) :: fields, σ)

/-- Builds schemas one after the other. -/
def buildAll (env : Surroundings) :
    List Blueprint → Store → Except BuildError (List Schema × Store)
  | [], σ => .ok ([], σ)
  | blueprint :: rest, σ => do
    let (schema, σ) ← build env blueprint σ
    let (schemas, σ) ← buildAll env rest σ
    return (schema :: schemas, σ)

end

end Blueprint

end JsonValidation
