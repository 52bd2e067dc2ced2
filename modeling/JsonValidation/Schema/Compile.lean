import JsonValidation.Schema.Routine
import JsonValidation.Schema.Store

/-!
# Compiling a schema

Compiling a node asks its slot for the routine. When the slot is empty the node is assembled: its
children are compiled first, each through its own slot, and the routine is made from theirs. A later
validation of the node, or of a parent that embeds it, reuses the routine.

* `Schema.assemble`: a new routine of a node; only the slots of its descendants may be filled.
* `Schema.compile`: the routine of a node, kept in its slot.
* `Schema.validate`, `Schema.validateBatch`: compile, then run.
-/

namespace JsonValidation.Schema

mutual

/-- A new routine of a node, after compiling its children. Each case is `SchemaLike::build_routine` of
    one kind of node; a shared node has that of the node behind it. -/
def assemble : Schema → Store → Routine × Store
  | string _ settings, σ => (settings.routine, σ)
  | number _ settings, σ => (settings.routine, σ)
  | boolean _ settings, σ => (settings.routine, σ)
  | literal _ expected, σ => (expected.routine, σ)
  | array _ element settings, σ =>
    let (item, σ) := σ.getOrBuild element.slot (assemble element)
    (settings.routine item, σ)
  | object _ fields typeMessage, σ =>
    let (routines, σ) := compileFields fields σ
    (Routine.object routines typeMessage, σ)
  | union _ alternatives, σ =>
    let (routines, σ) := compileAlternatives alternatives σ
    (Routine.union routines, σ)
  | optional _ inner, σ =>
    let (routine, σ) := σ.getOrBuild inner.slot (assemble inner)
    (Routine.optional routine, σ)
  | nullable _ inner, σ =>
    let (routine, σ) := σ.getOrBuild inner.slot (assemble inner)
    (Routine.nullable routine, σ)
  | refinement _ inner accepts message, σ =>
    let (routine, σ) := σ.getOrBuild inner.slot (assemble inner)
    (Routine.refinement routine accepts message, σ)
  | pipe _ first second, σ =>
    let (firstRoutine, σ) := σ.getOrBuild first.slot (assemble first)
    let (secondRoutine, σ) := σ.getOrBuild second.slot (assemble second)
    (Routine.pipe firstRoutine secondRoutine, σ)
  | shared _ inner, σ => assemble inner σ

/-- The routines of the fields of an object, compiled in their order as `ObjectSchema::build_routine`
    collects them. -/
def compileFields : List (String × Schema) → Store → List (String × Routine) × Store
  | [], σ => ([], σ)
  | (name, schema) :: rest, σ =>
    let (routine, σ) := σ.getOrBuild schema.slot (assemble schema)
    let (routines, σ) := compileFields rest σ
    ((name, routine) :: routines, σ)

/-- The routines of the alternatives of a union, compiled in their order as
    `UnionSchema::build_routine` collects them. -/
def compileAlternatives : List Schema → Store → List Routine × Store
  | [], σ => ([], σ)
  | schema :: rest, σ =>
    let (routine, σ) := σ.getOrBuild schema.slot (assemble schema)
    let (routines, σ) := compileAlternatives rest σ
    (routine :: routines, σ)

end

/-- The routine of a node, kept in its slot (`SchemaLike::compile`). -/
def compile (s : Schema) (σ : Store) : Routine × Store := σ.getOrBuild s.slot s.assemble

/-- Whether the routine of a node is kept (`SchemaLike::is_compiled`). -/
def isCompiled (s : Schema) (σ : Store) : Bool := σ.populated s.slot

/-- Validates an input that stands at a path by the routine of the node (`SchemaLike::validate_at`). -/
def validate (s : Schema) (input : Option Value) (path : Path) (σ : Store) :
    Outcome Output × Store :=
  let (routine, σ) := s.compile σ
  (routine input path, σ)

/-- Validates inputs at the root by the routine of the node, which is compiled even if there are no
    inputs (`batch::validate_batch`). -/
def validateBatch (s : Schema) (inputs : List Value) (σ : Store) :
    List (Outcome Output) × Store :=
  let (routine, σ) := s.compile σ
  (inputs.map fun input => routine (some input) .root, σ)

end JsonValidation.Schema
