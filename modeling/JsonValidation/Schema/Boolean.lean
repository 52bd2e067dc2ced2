import JsonValidation.Schema.Constraint

/-!
# Boolean schemas

A boolean can be made to be true and, independently, to be false; a schema with both demands accepts
nothing. The demand for true is checked first.

* `BooleanSettings.interpret`: the settings walked one after the other.
* `BooleanSettings.routine`: the settings turned into a list of checks beforehand.
-/

namespace JsonValidation

/-- The constraints of a boolean schema. -/
inductive BooleanRule where
  | mustBeTrue
  | mustBeFalse
deriving DecidableEq

/-- What a boolean schema demands. -/
structure BooleanSettings where
  mustBeTrue : Option (Constraint Unit) := none
  mustBeFalse : Option (Constraint Unit) := none
  typeMessage : Option String := none
  /-- The constraint that was set last, to which a message belongs. -/
  last : Option BooleanRule := none

/-- Constraints that a boolean schema starts with. -/
structure BooleanOptions where
  mustBeTrue : Bool := false
  mustBeFalse : Bool := false

namespace BooleanSettings

/-! ## Building -/

/-- Settings that start with some constraints, the last of them in the order of the checks counting as
    set last (`BooleanSchema::with_options`). -/
def ofOptions (options : BooleanOptions) : BooleanSettings where
  mustBeTrue := if options.mustBeTrue then some ⟨(), none⟩ else none
  mustBeFalse := if options.mustBeFalse then some ⟨(), none⟩ else none
  last :=
    if options.mustBeFalse then some .mustBeFalse
    else if options.mustBeTrue then some .mustBeTrue
    else none

/-- Demands true (`BooleanSchema::must_be_true`). -/
def setMustBeTrue (s : BooleanSettings) : BooleanSettings :=
  { s with mustBeTrue := some ⟨(), none⟩, last := some .mustBeTrue }

/-- Demands false (`BooleanSchema::must_be_false`). -/
def setMustBeFalse (s : BooleanSettings) : BooleanSettings :=
  { s with mustBeFalse := some ⟨(), none⟩, last := some .mustBeFalse }

/-- Gives a message to the constraint that was set last, or to the type check if there is none
    (`BooleanSchema::error`). -/
def setMessage (s : BooleanSettings) (message : String) : BooleanSettings :=
  match s.last with
  | some .mustBeTrue => { s with mustBeTrue := s.mustBeTrue.map (·.withMessage message) }
  | some .mustBeFalse => { s with mustBeFalse := s.mustBeFalse.map (·.withMessage message) }
  | none => { s with typeMessage := some message }

/-! ## Checking -/

/-- False where true is demanded (`boolean::must_be_true_violation`). -/
def mustBeTrueViolation (c : Constraint Unit) : Check Bool := fun b =>
  if b then none else some (c.violation .literalMismatch fun _ => "Boolean must be true")

/-- True where false is demanded (`boolean::must_be_false_violation`). -/
def mustBeFalseViolation (c : Constraint Unit) : Check Bool := fun b =>
  if b then some (c.violation .literalMismatch fun _ => "Boolean must be false") else none

/-- The first violation, looking at one setting after the other as `BooleanSchema::interpret` does. -/
def violation? (settings : BooleanSettings) (b : Bool) : Option Violation :=
  match settings.mustBeTrue.bind (mustBeTrueViolation · b) with
  | some violation => some violation
  | none => settings.mustBeFalse.bind (mustBeFalseViolation · b)

/-- Validates by walking the settings (`BooleanSchema::interpret`). -/
def interpret (settings : BooleanSettings) (input : Option Value) (path : Path) : Outcome Output :=
  match input with
  | some (.bool b) =>
    match settings.violation? b with
    | some (kind, message) => Outcome.fail path kind message input
    | none => .ok (.bool b)
  | _ => typeFailure "boolean" input path settings.typeMessage

/-- The settings as a list of checks (`BooleanSchema::checks`). -/
def checks (settings : BooleanSettings) : List (Check Bool) :=
  (settings.mustBeTrue.map mustBeTrueViolation).toList ++
    (settings.mustBeFalse.map mustBeFalseViolation).toList

/-- Validates by running the list of checks (`BooleanSchema::build_routine`). -/
def routine (settings : BooleanSettings) : Routine :=
  let checks := settings.checks
  fun input path =>
    match input with
    | some (.bool b) =>
      match firstViolation checks b with
      | some (kind, message) => Outcome.fail path kind message input
      | none => .ok (.bool b)
    | _ => typeFailure "boolean" input path settings.typeMessage

end BooleanSettings

end JsonValidation
