import JsonValidation.Blueprint
import JsonValidation.Registry
import JsonValidation.Text.Escaped

/-!
# Sessions

A session has named schemas, one registry and the store of all their compiled routines. Each step
builds, inspects, compiles, runs or registers schemas, and a step that fails changes nothing.

* `Session.step`: one step and its reply.
* `Session.run`: a list of steps, with the replies in their order.
-/

namespace JsonValidation

/-- A session. -/
structure Session where
  store : Store := {}
  /-- The named schemas. -/
  schemas : List (String × Schema) := []
  registry : Registry := {}

namespace Session

/-- What is special about a node. -/
inductive Detail where
  | plain
  | object (keys : List String)
  | union (size : Nat)
  | refinement (message : String) (inner : SchemaKind)
  | literal (expected : Literal)

/-- What is shown of a node. -/
structure Description where
  kind : SchemaKind
  compiled : Bool
  detail : Detail := .plain

/-- A step of a session. -/
inductive Step where
  /-- Names the schema of a blueprint, in place of an older schema of that name. -/
  | define (name : String) (blueprint : Blueprint)
  /-- Names the node that directions lead to from a named schema. -/
  | pick (name source : String) (directions : List String)
  /-- Describes what directions lead to from a named schema. -/
  | describe (name : String) (directions : List String)
  | compile (name : String)
  | validate (name : String) (input : Option Value) (path : Path)
  | interpret (name : String) (input : Option Value) (path : Path)
  /-- Runs a routine that interprets the schema. -/
  | fallback (name : String) (input : Option Value) (path : Path)
  /-- Runs a newly assembled routine, which is not kept. -/
  | assemble (name : String) (input : Option Value) (path : Path)
  | batch (name : String) (inputs : List Value)
  | register (name : String) (blueprint : Blueprint)
  | names
  | get (name : String)
  /-- Compiles all registered schemas, those with the listed names first. -/
  | warm (order : List String := [])
  | validateRegistered (name : String) (value : Value)

/-- Why a step fails. -/
inductive StepError where
  | build (e : BuildError)
  | registry (e : RegistryError)
  | unknownSchema (name : String)
  /-- The directions lead nowhere. -/
  | noSuchNode

/-- The reply to a step. -/
inductive Reply where
  | described (description : Description)
  /-- There is no such field or entry. -/
  | missing
  | compiled
  | outcome (result : Outcome Output)
  | outcomes (results : List (Outcome Output))
  | value (result : Outcome (Option Value))
  | names (names : List String) (size : Nat) (empty : Bool)
  | warmed (count : Nat)
  | failed (e : StepError)

/-- What blueprints can refer to in a session. -/
def surroundings (dialect : PatternDialect) (s : Session) : Surroundings where
  dialect := dialect
  defined? name := Shape.lookup? s.schemas name
  registered? := s.registry.get?

/-- The child in a direction, looking through nodes that are shared directly. -/
def child? : Schema → String → Option Schema
  | .array _ element _, "element" => some element
  | .optional _ inner, "inner" => some inner
  | .nullable _ inner, "inner" => some inner
  | .refinement _ inner _ _, "inner" => some inner
  | .pipe _ first _, "first" => some first
  | .pipe _ _ second, "second" => some second
  | .shared .direct inner, direction => child? inner direction
  | _, _ => none

/-- The field of an object with a name; outside there is nothing if the node is no object. -/
def field? : Schema → String → Option (Option Schema)
  | .object _ fields _, name => some (Shape.lookup? fields name)
  | .shared .direct inner, name => field? inner name
  | _, _ => none

/-- What directions can lead to. -/
inductive Place where
  | node (schema : Schema)
  /-- A field of an object, or a name that the object does not declare. -/
  | field (schema : Option Schema)

/-- Follows directions from a node. The last one can be the name of a field. -/
def locate : Schema → List String → Option Place
  | schema, [] => some (.node schema)
  | schema, direction :: rest =>
    match child? schema direction with
    | some child => locate child rest
    | none => if rest.isEmpty then (field? schema direction).map .field else none

/-- What is special about a node. A node that was obtained through the registry shows nothing. -/
def detail : Schema → Detail
  | .object _ fields _ => .object (Shape.names fields)
  | .union _ alternatives => .union alternatives.length
  | .refinement _ inner _ message => .refinement message inner.kind
  | .literal _ expected => .literal expected
  | .shared .direct inner => detail inner
  | _ => .plain

/-- The kind of a node and whether it is compiled. -/
def summary (schema : Schema) (σ : Store) : Description where
  kind := schema.kind
  compiled := schema.isCompiled σ

/-- All that is shown of a node. -/
def describe (schema : Schema) (σ : Store) : Description :=
  { summary schema σ with detail := detail schema }

/-- The text that is shown for a refinement. -/
def refinementText (message : String) (inner : SchemaKind) : String :=
  "RefinedSchema \x7b kind: " ++ inner.title ++ ", message: " ++ Text.escaped message ++ " \x7d"

/-- The reply about the names of the registry. -/
def namesReply (r : Registry) : Reply := .names r.names r.size r.isEmpty

/-- Names a schema that exists already, in place of an older schema of that name. -/
def bind (s : Session) (name : String) (schema : Schema) : Session × Reply :=
  ({ s with schemas := Shape.declare s.schemas name schema }, .described (summary schema s.store))

/-- Goes on with a named schema. -/
def withSchema (s : Session) (name : String) (act : Schema → Session × Reply) : Session × Reply :=
  match Shape.lookup? s.schemas name with
  | some schema => act schema
  | none => (s, .failed (.unknownSchema name))

/-- Makes a step. -/
def step (dialect : PatternDialect) (s : Session) : Step → Session × Reply
  | .define name blueprint =>
    match blueprint.build (s.surroundings dialect) s.store with
    | .ok (schema, σ) =>
      ({ s with store := σ, schemas := Shape.declare s.schemas name schema },
        .described (summary schema σ))
    | .error e => (s, .failed (.build e))
  | .pick name source directions => s.withSchema source fun schema =>
    match locate schema directions with
    | some (.node node) => s.bind name node
    | some (.field (some field)) => s.bind name (.shared .field field)
    | some (.field none) => (s, .missing)
    | none => (s, .failed .noSuchNode)
  | .describe name directions => s.withSchema name fun schema =>
    match locate schema directions with
    | some (.node node) => (s, .described (describe node s.store))
    | some (.field (some field)) => (s, .described (summary field s.store))
    | some (.field none) => (s, .missing)
    | none => (s, .failed .noSuchNode)
  | .compile name => s.withSchema name fun schema =>
    let (_, σ) := schema.compile s.store
    ({ s with store := σ }, .compiled)
  | .validate name input path => s.withSchema name fun schema =>
    let (result, σ) := schema.validate input path s.store
    ({ s with store := σ }, .outcome result)
  | .interpret name input path => s.withSchema name fun schema =>
    (s, .outcome (schema.interpret input path))
  | .fallback name input path => s.withSchema name fun schema =>
    (s, .outcome (schema.fallback input path))
  | .assemble name input path => s.withSchema name fun schema =>
    let (routine, σ) := schema.assemble s.store
    ({ s with store := σ }, .outcome (routine input path))
  | .batch name inputs => s.withSchema name fun schema =>
    let (results, σ) := schema.validateBatch inputs s.store
    ({ s with store := σ }, .outcomes results)
  | .register name blueprint =>
    match blueprint.build (s.surroundings dialect) s.store with
    | .ok (schema, σ) =>
      match s.registry.register name schema with
      | .ok registry => ({ s with store := σ, registry }, namesReply registry)
      | .error e => (s, .failed (.registry e))
    | .error e => (s, .failed (.build e))
  | .names => (s, namesReply s.registry)
  | .get name =>
    match s.registry.get? name with
    | some schema => (s, .described (summary schema s.store))
    | none => (s, .missing)
  | .warm order =>
    let (count, σ) := s.registry.warm order s.store
    ({ s with store := σ }, .warmed count)
  | .validateRegistered name value =>
    match s.registry.validate name value s.store with
    | .ok (result, σ) => ({ s with store := σ }, .value result)
    | .error e => (s, .failed (.registry e))

/-- Makes steps one after the other, with the replies in their order. -/
def run (dialect : PatternDialect) (s : Session) : List Step → Session × List Reply
  | [] => (s, [])
  | first :: rest =>
    let (s, reply) := s.step dialect first
    let (s, replies) := s.run dialect rest
    (s, reply :: replies)

end Session

end JsonValidation
