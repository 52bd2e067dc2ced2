import JsonValidation.Blueprint
import JsonValidation.Schema.Compile

/-!
# Trials

A trial builds one schema from a blueprint, away from any session, and runs it in every way there is:
by its routine, by the interpreter, by the fallback, by a newly assembled routine, and by its routine
again.

* `Trial.run`: the outcome, and whether all ways agreed on it.
* `Trial.runTyped`: the same for the interpreter and the routine only.
* `Trial.runBatch`: many inputs, and whether the schema was compiled afterwards.
-/

namespace JsonValidation

/-- What a trial shows. -/
structure Trial where
  kind : SchemaKind
  outcome : Outcome Output
  agree : Bool

namespace Trial

/-- The surroundings of a trial: there is nothing to refer to. -/
def surroundings (dialect : PatternDialect) : Surroundings where
  dialect := dialect
  defined? _ := none
  registered? _ := none

/-- Runs a schema in every way on an input that stands at a path. -/
def ofSchema (s : Schema) (input : Option Value) (path : Path) (σ : Store) : Trial :=
  let (outcome, σ) := s.validate input path σ
  let (again, σ) := s.validate input path σ
  let (assembled, _) := s.assemble σ
  let others := [s.interpret input path, s.fallback input path, assembled input path, again]
  { kind := s.kind
    outcome
    agree := s.isCompiled σ && others.all outcome.same }

/-- Runs the schema of a blueprint in every way. -/
def run (dialect : PatternDialect) (blueprint : Blueprint) (input : Option Value) (path : Path) :
    Except BuildError Trial := do
  let (schema, σ) ← blueprint.build (surroundings dialect) {}
  return ofSchema schema input path σ

/-- Runs the schema of a blueprint at the root, by the interpreter and by its routine. -/
def runTyped (dialect : PatternDialect) (blueprint : Blueprint) (input : Option Value) :
    Except BuildError Trial := do
  let (schema, σ) ← blueprint.build (surroundings dialect) {}
  let (outcome, σ) := schema.validate input .root σ
  return {
    kind := schema.kind
    outcome
    agree := schema.isCompiled σ && outcome.same (schema.interpret input .root) }

/-- Validates inputs at the root by the schema of a blueprint, and says whether it was compiled
    then. -/
def runBatch (dialect : PatternDialect) (blueprint : Blueprint) (inputs : List Value) :
    Except BuildError (List (Outcome Output) × Bool) := do
  let (schema, σ) ← blueprint.build (surroundings dialect) {}
  let (outcomes, σ) := schema.validateBatch inputs σ
  return (outcomes, schema.isCompiled σ)

end Trial

end JsonValidation
