import JsonValidation.Schema.Constraint
import JsonValidation.Value.Printer

/-!
# Literals

A literal is one scalar value. It matches an equal value, numbers being compared by magnitude, and a
schema pinned to it returns the value that it was given.

* `Literal.accepts`: which values a literal matches.
* `Literal.validate`: absence is a missing value, and every other mismatch names both values.
-/

namespace JsonValidation

/-- A scalar value. -/
inductive Literal where
  | null
  | bool (b : Bool)
  | number (n : Number)
  | string (s : String)

namespace Literal

/-- The literal of a binary64 number, if it is finite (`Literal::float`). -/
def ofBinary64? : Binary64 → Option Literal
  | .finite x => some (.number (.float x))
  | _ => none

/-- The literal as a value (`Literal::to_value`). -/
def toValue : Literal → Value
  | null => .null
  | bool b => .bool b
  | number n => .number n
  | string s => .string s

/-- The scalar that a value is, if it is one. -/
def ofValue? : Value → Option Literal
  | .null => some null
  | .bool b => some (bool b)
  | .number n => some (number n)
  | .string s => some (string s)
  | _ => none

/-- Whether a value is equal to the literal, numbers being compared by magnitude (`Literal::matches`). -/
def accepts : Literal → Value → Bool
  | null, .null => true
  | bool expected, .bool actual => expected == actual
  | number expected, .number actual => expected.equals actual
  | string expected, .string actual => expected == actual
  | _, _ => false

/-- Equality of literals as values: an integer never equals a binary64 number. -/
def same (a b : Literal) : Bool := a.toValue == b.toValue

/-- The compact text of a literal (`Literal::fmt`). -/
def render (l : Literal) : String := l.toValue.render

/-- What a mismatch says. -/
def mismatch (expected : Literal) (actual : Value) : String :=
  "Invalid literal value, expected " ++ expected.render ++ ", received " ++ actual.render

/-- Validates against the literal, and returns the value that was given (`literal::check_literal`). -/
def validate (expected : Literal) (input : Option Value) (path : Path) : Outcome Output :=
  match input with
  | none => typeFailure "literal" none path none
  | some actual =>
    if expected.accepts actual then .ok (.value actual)
    else Outcome.fail path .literalMismatch (expected.mismatch actual) input

/-- The routine of a schema pinned to the literal (`LiteralSchema::build_routine`). -/
def routine (expected : Literal) : Routine := fun input path => expected.validate input path

end Literal

end JsonValidation
