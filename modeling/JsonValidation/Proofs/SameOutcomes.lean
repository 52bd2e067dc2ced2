import JsonValidation.Proofs.Footprint
import JsonValidation.Proofs.Replies

/-!
# Schemas that no run tells apart

A schema is run by its interpreter, or by a routine that is compiled at some moment of some session.
Two schemas have the same outcomes when no way to run the one differs from any way to run the other,
in whatever sessions and whatever was compiled before.

* `Schema.RunBy`: the ways to run a schema. `RunBy.eq_interpret`: they are all the same.
* `Schema.SameOutcomes`, `Schema.SameValues`: the same outcomes, as they are and with the values that
  outputs stand for.
-/

namespace JsonValidation.Schema

open Session (Step reached)

/-- A routine that runs a schema. A schema that is shared is found among the nodes of a session as the
    node that it is. -/
inductive RunBy (s : Schema) : Routine → Prop where
  | interpreted : RunBy s s.interpret
  /-- The routine that the slot of the schema gives at some moment, compiled then or before. -/
  | compiled (dialect : PatternDialect) (steps : List Step)
      (h : s.node ∈ (reached dialect steps).nodes) :
      RunBy s (s.compile (reached dialect steps).store).1
  /-- Validation at some moment. -/
  | validated (dialect : PatternDialect) (steps : List Step)
      (h : s.node ∈ (reached dialect steps).nodes) :
      RunBy s fun input path => (s.validate input path (reached dialect steps).store).1
  /-- A routine that is assembled at some moment and not kept. -/
  | assembled (dialect : PatternDialect) (steps : List Step)
      (h : s.node ∈ (reached dialect steps).nodes) :
      RunBy s (s.assemble (reached dialect steps).store).1

/-- Whichever way two schemas are run, they have the same outcomes: the same output, or a failure at the
    same path, of the same kind, with the same message and the same offending value. -/
def SameOutcomes (s t : Schema) : Prop :=
  ∀ r r', s.RunBy r → t.RunBy r' → ∀ input path, r input path = r' input path

/-- The same with outputs that stand for the same value, or for none. -/
def SameValues (s t : Schema) : Prop :=
  ∀ r r', s.RunBy r → t.RunBy r' → ∀ input path, r.values input path = r'.values input path

variable {s t : Schema} {r : Routine}

/-- All ways to run a schema are the interpreter. -/
theorem RunBy.eq_interpret (h : s.RunBy r) : r = s.interpret := by
  have hruns : ∀ dialect steps, s.node ∈ (reached dialect steps).nodes →
      s.RunsAsInterpreted (reached dialect steps).store := by
    intro dialect steps hs
    obtain ⟨owner, hsound⟩ := Session.reached_sound dialect steps
    have hplaced := (hsound.placed_of_mem_nodes hs).of_nodes_subset (t := s) fun n hn => by
      rwa [nodes_node]
    exact runsAsInterpreted hsound.coherent hplaced
  cases h with
  | interpreted => rfl
  | compiled dialect steps h => exact (hruns dialect steps h).compile_eq
  | validated dialect steps h =>
    exact funext fun input => funext fun path => (hruns dialect steps h).validate_eq input path
  | assembled dialect steps h => exact (hruns dialect steps h).assemble_eq

/-- The nodes of a session can be validated with at any moment. -/
theorem RunBy.of_mem_nodes {dialect : PatternDialect} {steps : List Step}
    (hs : s ∈ (reached dialect steps).nodes) :
    s.RunBy fun input path => (s.validate input path (reached dialect steps).store).1 :=
  .validated dialect steps (Session.mem_nodes_trans hs s.node_mem_nodes)

theorem SameOutcomes.of_interpret_eq (h : s.interpret = t.interpret) : s.SameOutcomes t := by
  intro r r' hr hr' input path
  rw [hr.eq_interpret, hr'.eq_interpret, h]

theorem SameValues.of_values_eq (h : s.interpret.values = t.interpret.values) : s.SameValues t := by
  intro r r' hr hr' input path
  rw [hr.eq_interpret, hr'.eq_interpret, h]

end JsonValidation.Schema
