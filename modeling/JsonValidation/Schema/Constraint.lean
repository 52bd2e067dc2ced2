import JsonValidation.Schema.Output

/-!
# Constraints and their violations

A constraint is a value together with a message of its own, if the schema's author gave one. A check
looks at one property of an input and says which violation it finds.

* `firstViolation`: the first violation that a list of checks finds.
* `typeFailure`: the failure of an input that is absent, null or of another type than expected.
-/

namespace JsonValidation

/-- The kind and the message of a violated constraint. -/
abbrev Violation := FailureKind × String

/-- What a schema demands, with the message that replaces the usual one (`validation::Rule`). -/
structure Constraint (α : Type) where
  value : α
  message : Option String := none

/-- The violation of a constraint, worded by its own message or else by the usual one
    (`Rule::violation`). -/
def Constraint.violation {α : Type} (c : Constraint α) (kind : FailureKind)
    (usual : α → String) : Violation :=
  (kind, c.message.getD (usual c.value))

/-- The constraint with a message of its own. -/
def Constraint.withMessage {α : Type} (c : Constraint α) (message : String) : Constraint α :=
  { c with message := some message }

/-- Looks for a violation. -/
abbrev Check (α : Type) := α → Option Violation

/-- The first violation that the checks find, in their order (`compile::first_violation`). -/
def firstViolation {α : Type} (checks : List (Check α)) (input : α) : Option Violation :=
  checks.findSome? fun check => check input

/-- The failure of an input that is absent, null or of another type than expected
    (`validation::type_failure`). A message of the schema's author replaces the text but not the kind. -/
def typeFailure {α : Type} (expected : String) (input : Option Value) (path : Path)
    (custom : Option String) : Outcome α :=
  let (kind, usual) := match input with
    | none => (FailureKind.missingRequired, "Required")
    | some .null => (FailureKind.nullNotAllowed, "Expected " ++ expected ++ ", received null")
    | some other =>
      (FailureKind.typeMismatch, "Expected " ++ expected ++ ", received " ++ other.typeName)
  Outcome.fail path kind (custom.getD usual) input

end JsonValidation
