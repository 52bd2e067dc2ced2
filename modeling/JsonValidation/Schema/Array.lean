import JsonValidation.Schema.Constraint

/-!
# Array settings

An array can be bounded in length. Its length is checked before any of its items, the minimum before
the maximum.

* `ArraySettings.violation?`: the settings walked one after the other.
* `ArraySettings.routine`: the routine of an array whose items have a routine already.
-/

namespace JsonValidation

/-- The constraints of an array schema. -/
inductive ArrayRule where
  | minLen
  | maxLen
deriving DecidableEq

/-- What an array schema demands of the array itself. -/
structure ArraySettings where
  minLen : Option (Constraint Nat) := none
  maxLen : Option (Constraint Nat) := none
  typeMessage : Option String := none
  /-- The constraint that was set last, to which a message belongs. -/
  last : Option ArrayRule := none

/-- Constraints that an array schema starts with. -/
structure ArrayOptions where
  minLen : Option Nat := none
  maxLen : Option Nat := none

namespace ArraySettings

/-! ## Building -/

/-- Settings that start with some constraints, the last of them in the order of the checks counting as
    set last (`ArraySchema::with_options`). -/
def ofOptions (options : ArrayOptions) : ArraySettings where
  minLen := options.minLen.map (⟨·, none⟩)
  maxLen := options.maxLen.map (⟨·, none⟩)
  last :=
    if options.maxLen.isSome then some .maxLen
    else if options.minLen.isSome then some .minLen
    else none

/-- Bounds the length from below (`ArraySchema::min_len`). -/
def setMinLen (s : ArraySettings) (n : Nat) : ArraySettings :=
  { s with minLen := some ⟨n, none⟩, last := some .minLen }

/-- Bounds the length from above (`ArraySchema::max_len`). -/
def setMaxLen (s : ArraySettings) (n : Nat) : ArraySettings :=
  { s with maxLen := some ⟨n, none⟩, last := some .maxLen }

/-- Forbids the empty array (`ArraySchema::non_empty`). -/
def setNonEmpty (s : ArraySettings) : ArraySettings := s.setMinLen 1

/-- Gives a message to the constraint that was set last, or to the type check if there is none
    (`ArraySchema::error`). -/
def setMessage (s : ArraySettings) (message : String) : ArraySettings :=
  match s.last with
  | some .minLen => { s with minLen := s.minLen.map (·.withMessage message) }
  | some .maxLen => { s with maxLen := s.maxLen.map (·.withMessage message) }
  | none => { s with typeMessage := some message }

/-! ## Checking -/

/-- Too short (`array::min_len_violation`). -/
def minLenViolation (c : Constraint Nat) : Check Nat := fun length =>
  if length < c.value then
    some (c.violation .lengthOutOfBounds fun n =>
      "Array must contain at least " ++ Nat.repr n ++ " element(s)")
  else none

/-- Too long (`array::max_len_violation`). -/
def maxLenViolation (c : Constraint Nat) : Check Nat := fun length =>
  if c.value < length then
    some (c.violation .lengthOutOfBounds fun n =>
      "Array must contain at most " ++ Nat.repr n ++ " element(s)")
  else none

/-- The first violation, looking at one setting after the other (`ArraySchema::length_violation`). -/
def violation? (settings : ArraySettings) (length : Nat) : Option Violation :=
  match settings.minLen.bind (minLenViolation · length) with
  | some violation => some violation
  | none => settings.maxLen.bind (maxLenViolation · length)

/-- The settings as the list of checks that `ArraySchema::build_routine` pushes. -/
def checks (settings : ArraySettings) : List (Check Nat) :=
  (settings.minLen.map minLenViolation).toList ++ (settings.maxLen.map maxLenViolation).toList

/-- The routine of an array, given the routine of its items (`ArraySchema::build_routine`): the length
    is checked first, then the items in their order up to the first failure. -/
def routine (settings : ArraySettings) (item : Routine) : Routine :=
  let checks := settings.checks
  fun input path =>
    match input with
    | some (.array items) =>
      match firstViolation checks items.length with
      | some (kind, message) => Outcome.fail path kind message input
      | none => do
        let outputs ← items.zipIdx.mapM fun (value, position) =>
          item (some value) (path.pushIndex position)
        return .array outputs
    | _ => typeFailure "array" input path settings.typeMessage

end ArraySettings

end JsonValidation
