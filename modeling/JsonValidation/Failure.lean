import JsonValidation.Path.Basic
import JsonValidation.Value.Basic

/-!
# Failures and outcomes

Validation stops at the first check that fails, so a failed run has exactly one failure: where it
happened, of which kind it is, its message, and the offending value unless it was absent.

* `Outcome`: an output or a failure.
* `Failure.render`: the place and the message on one line.
-/

namespace JsonValidation

/-- What a failed check was about (`ErrorKind`). -/
inductive FailureKind where
  | typeMismatch
  | lengthOutOfBounds
  | rangeOutOfBounds
  | signViolated
  | patternMismatch
  | literalMismatch
  | unionExhausted
  | refinementFailed
  | missingRequired
  | nullNotAllowed
deriving DecidableEq

/-- The stable code of a kind (`ErrorKind::code`). -/
def FailureKind.code : FailureKind → String
  | typeMismatch => "invalid_type"
  | lengthOutOfBounds => "length"
  | rangeOutOfBounds => "out_of_range"
  | signViolated => "sign"
  | patternMismatch => "pattern"
  | literalMismatch => "invalid_literal"
  | unionExhausted => "union_exhausted"
  | refinementFailed => "refinement"
  | missingRequired => "required"
  | nullNotAllowed => "null_not_allowed"

/-- A failed check (`SchemaError`). -/
structure Failure where
  path : Path
  kind : FailureKind
  message : String
  /-- The offending value; nothing if it was absent. -/
  got : Option Value := none

namespace Failure

/-- The failure with an offending value (`SchemaError::with_got`). -/
def withGot (f : Failure) (value : Value) : Failure := { f with got := some value }

/-- The failure with an input as its offending value, present or not (`SchemaError::with_input`). -/
def withInput (f : Failure) (input : Option Value) : Failure := { f with got := input }

/-- The place and the message on one line (`SchemaError::fmt`). -/
def render (f : Failure) : String :=
  (if f.path.isRoot then "<root>" else f.path.render) ++ ": " ++ f.message

/-- Equality of failures, with offending values compared as values. -/
def same (f g : Failure) : Bool :=
  f.path == g.path && f.kind == g.kind && f.message == g.message && f.got == g.got

instance : BEq Failure := ⟨same⟩

end Failure

/-- The result of a validation. -/
abbrev Outcome (α : Type) := Except Failure α

namespace Outcome

/-- A failure with the input as its offending value (`validation::failure`). -/
def fail {α : Type} (path : Path) (kind : FailureKind) (message : String)
    (input : Option Value) : Outcome α :=
  .error ⟨path, kind, message, input⟩

/-- Equality of outcomes, given an equality of outputs. -/
def same {α : Type} [BEq α] : Outcome α → Outcome α → Bool
  | .ok a, .ok b => a == b
  | .error f, .error g => f == g
  | _, _ => false

end Outcome

end JsonValidation
