import JsonValidation.Schema.Constraint

/-!
# Number schemas

A number can be bounded from both sides and restricted in sign. All checks look at the nearest
binary64 number, in the order minimum, maximum, positive, negative, and the number itself is returned
unchanged. A bound that is not a number is never violated.

* `NumberSettings.interpret`: the settings walked one after the other.
* `NumberSettings.routine`: the settings turned into a list of checks beforehand.
-/

namespace JsonValidation

/-- The constraints of a number schema. -/
inductive NumberRule where
  | min
  | max
  | positive
  | negative
deriving DecidableEq

/-- What a number schema demands. -/
structure NumberSettings where
  min : Option (Constraint Binary64) := none
  max : Option (Constraint Binary64) := none
  positive : Option (Constraint Unit) := none
  negative : Option (Constraint Unit) := none
  typeMessage : Option String := none
  /-- The constraint that was set last, to which a message belongs. -/
  last : Option NumberRule := none

/-- Constraints that a number schema starts with. -/
structure NumberOptions where
  min : Option Binary64 := none
  max : Option Binary64 := none
  positive : Bool := false
  negative : Bool := false

namespace NumberSettings

/-! ## Building -/

/-- Settings that start with some constraints, the last of them in the order of the checks counting as
    set last (`NumberSchema::with_options`). -/
def ofOptions (options : NumberOptions) : NumberSettings where
  min := options.min.map (⟨·, none⟩)
  max := options.max.map (⟨·, none⟩)
  positive := if options.positive then some ⟨(), none⟩ else none
  negative := if options.negative then some ⟨(), none⟩ else none
  last :=
    if options.negative then some .negative
    else if options.positive then some .positive
    else if options.max.isSome then some .max
    else if options.min.isSome then some .min
    else none

/-- Bounds from below (`NumberSchema::min`). -/
def setMin (s : NumberSettings) (bound : Binary64) : NumberSettings :=
  { s with min := some ⟨bound, none⟩, last := some .min }

/-- Bounds from above (`NumberSchema::max`). -/
def setMax (s : NumberSettings) (bound : Binary64) : NumberSettings :=
  { s with max := some ⟨bound, none⟩, last := some .max }

/-- Bounds from below and then from above (`NumberSchema::range`). -/
def setRange (s : NumberSettings) (low high : Binary64) : NumberSettings :=
  (s.setMin low).setMax high

/-- Demands a number above zero (`NumberSchema::positive`). -/
def setPositive (s : NumberSettings) : NumberSettings :=
  { s with positive := some ⟨(), none⟩, last := some .positive }

/-- Demands a number below zero (`NumberSchema::negative`). -/
def setNegative (s : NumberSettings) : NumberSettings :=
  { s with negative := some ⟨(), none⟩, last := some .negative }

/-- Gives a message to the constraint that was set last, or to the type check if there is none
    (`NumberSchema::error`). -/
def setMessage (s : NumberSettings) (message : String) : NumberSettings :=
  match s.last with
  | some .min => { s with min := s.min.map (·.withMessage message) }
  | some .max => { s with max := s.max.map (·.withMessage message) }
  | some .positive => { s with positive := s.positive.map (·.withMessage message) }
  | some .negative => { s with negative := s.negative.map (·.withMessage message) }
  | none => { s with typeMessage := some message }

/-! ## Checking -/

/-- Below the lower bound (`numeric::min_violation`). -/
def minViolation (c : Constraint Binary64) : Check Binary64 := fun n =>
  if n.lt c.value then
    some (c.violation .rangeOutOfBounds fun bound =>
      "Number must be greater than or equal to " ++ Binary64.boundText bound)
  else none

/-- Above the upper bound (`numeric::max_violation`). -/
def maxViolation (c : Constraint Binary64) : Check Binary64 := fun n =>
  if c.value.lt n then
    some (c.violation .rangeOutOfBounds fun bound =>
      "Number must be less than or equal to " ++ Binary64.boundText bound)
  else none

/-- Not above zero (`numeric::positive_violation`). -/
def positiveViolation (c : Constraint Unit) : Check Binary64 := fun n =>
  if n.le .zero then some (c.violation .signViolated fun _ => "Number must be positive") else none

/-- Not below zero (`numeric::negative_violation`). -/
def negativeViolation (c : Constraint Unit) : Check Binary64 := fun n =>
  if Binary64.zero.le n then some (c.violation .signViolated fun _ => "Number must be negative")
  else none

/-- The first violation, looking at one setting after the other (`NumberSettings::first_violation`). The
    number is what `numeric::as_number` hands to the checks. -/
def violation? (settings : NumberSettings) (n : Binary64) : Option Violation :=
  match settings.min.bind (minViolation · n) with
  | some violation => some violation
  | none =>
    match settings.max.bind (maxViolation · n) with
    | some violation => some violation
    | none =>
      match settings.positive.bind (positiveViolation · n) with
      | some violation => some violation
      | none => settings.negative.bind (negativeViolation · n)

/-- Validates by walking the settings (`NumberSchema::interpret`). -/
def interpret (settings : NumberSettings) (input : Option Value) (path : Path) : Outcome Output :=
  match input with
  | some (.number n) =>
    match settings.violation? n.toBinary64 with
    | some (kind, message) => Outcome.fail path kind message input
    | none => .ok (.number n)
  | _ => typeFailure "number" input path settings.typeMessage

/-- The settings as the list of checks that `NumberSchema::build_routine` pushes. -/
def checks (settings : NumberSettings) : List (Check Binary64) :=
  (settings.min.map minViolation).toList ++ (settings.max.map maxViolation).toList ++
    (settings.positive.map positiveViolation).toList ++
    (settings.negative.map negativeViolation).toList

/-- Validates by running the list of checks (`NumberSchema::build_routine`). -/
def routine (settings : NumberSettings) : Routine :=
  let checks := settings.checks
  fun input path =>
    match input with
    | some (.number n) =>
      match firstViolation checks n.toBinary64 with
      | some (kind, message) => Outcome.fail path kind message input
      | none => .ok (.number n)
    | _ => typeFailure "number" input path settings.typeMessage

end NumberSettings

end JsonValidation
