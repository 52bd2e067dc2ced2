import JsonValidation.Schema.Constraint
import JsonValidation.Text.Utf16

/-!
# String schemas

A string can be bounded in length, counted in UTF-16 code units, and made to match a pattern. The
checks run in the order minimum length, maximum length, pattern.

* `StringSettings.interpret`: the settings walked one after the other.
* `StringSettings.routine`: the settings turned into a list of checks beforehand.
-/

namespace JsonValidation

/-- A pattern: its source text and the texts that it matches. -/
structure Pattern where
  source : String
  accepts : String → Bool

/-- The constraints of a string schema. -/
inductive StringRule where
  | minLen
  | maxLen
  | pattern
deriving DecidableEq

/-- What a string schema demands. -/
structure StringSettings where
  minLen : Option (Constraint Nat) := none
  maxLen : Option (Constraint Nat) := none
  pattern : Option (Constraint Pattern) := none
  typeMessage : Option String := none
  /-- The constraint that was set last, to which a message belongs. -/
  last : Option StringRule := none

/-- Constraints that a string schema starts with. -/
structure StringOptions where
  minLen : Option Nat := none
  maxLen : Option Nat := none
  pattern : Option Pattern := none

namespace StringSettings

/-! ## Building -/

/-- Settings that start with some constraints, the last of them in the order of the checks counting as
    set last (`StringSchema::with_options`). -/
def ofOptions (options : StringOptions) : StringSettings where
  minLen := options.minLen.map (⟨·, none⟩)
  maxLen := options.maxLen.map (⟨·, none⟩)
  pattern := options.pattern.map (⟨·, none⟩)
  last :=
    if options.pattern.isSome then some .pattern
    else if options.maxLen.isSome then some .maxLen
    else if options.minLen.isSome then some .minLen
    else none

/-- Bounds the length from below (`StringSchema::min_len`). -/
def setMinLen (s : StringSettings) (n : Nat) : StringSettings :=
  { s with minLen := some ⟨n, none⟩, last := some .minLen }

/-- Bounds the length from above (`StringSchema::max_len`). -/
def setMaxLen (s : StringSettings) (n : Nat) : StringSettings :=
  { s with maxLen := some ⟨n, none⟩, last := some .maxLen }

/-- Forbids the empty string (`StringSchema::non_empty`). -/
def setNonEmpty (s : StringSettings) : StringSettings := s.setMinLen 1

/-- Demands a match of a pattern (`StringSchema::regex`). -/
def setPattern (s : StringSettings) (p : Pattern) : StringSettings :=
  { s with pattern := some ⟨p, none⟩, last := some .pattern }

/-- Gives a message to the constraint that was set last, or to the type check if there is none
    (`StringSchema::error`). -/
def setMessage (s : StringSettings) (message : String) : StringSettings :=
  match s.last with
  | some .minLen => { s with minLen := s.minLen.map (·.withMessage message) }
  | some .maxLen => { s with maxLen := s.maxLen.map (·.withMessage message) }
  | some .pattern => { s with pattern := s.pattern.map (·.withMessage message) }
  | none => { s with typeMessage := some message }

/-! ## Checking -/

/-- Too short (`string::min_len_violation`). -/
def minLenViolation (c : Constraint Nat) : Check String := fun s =>
  if Text.units16 s < c.value then
    some (c.violation .lengthOutOfBounds fun n =>
      "String must be at least " ++ Nat.repr n ++ " characters")
  else none

/-- Too long (`string::max_len_violation`). -/
def maxLenViolation (c : Constraint Nat) : Check String := fun s =>
  if c.value < Text.units16 s then
    some (c.violation .lengthOutOfBounds fun n =>
      "String must be at most " ++ Nat.repr n ++ " characters")
  else none

/-- Not matched (`string::pattern_violation`). -/
def patternViolation (c : Constraint Pattern) : Check String := fun s =>
  if c.value.accepts s then none
  else
    some (c.violation .patternMismatch fun p => "String must match pattern /" ++ p.source ++ "/")

/-- The first violation, looking at one setting after the other (`StringSettings::first_violation`). -/
def violation? (settings : StringSettings) (s : String) : Option Violation :=
  match settings.minLen.bind (minLenViolation · s) with
  | some violation => some violation
  | none =>
    match settings.maxLen.bind (maxLenViolation · s) with
    | some violation => some violation
    | none => settings.pattern.bind (patternViolation · s)

/-- Validates by walking the settings (`StringSchema::interpret`). -/
def interpret (settings : StringSettings) (input : Option Value) (path : Path) : Outcome Output :=
  match input with
  | some (.string s) =>
    match settings.violation? s with
    | some (kind, message) => Outcome.fail path kind message input
    | none => .ok (.string s)
  | _ => typeFailure "string" input path settings.typeMessage

/-- The settings as the list of checks that `StringSchema::build_routine` pushes. -/
def checks (settings : StringSettings) : List (Check String) :=
  (settings.minLen.map minLenViolation).toList ++ (settings.maxLen.map maxLenViolation).toList ++
    (settings.pattern.map patternViolation).toList

/-- Validates by running the list of checks (`StringSchema::build_routine`). -/
def routine (settings : StringSettings) : Routine :=
  let checks := settings.checks
  fun input path =>
    match input with
    | some (.string s) =>
      match firstViolation checks s with
      | some (kind, message) => Outcome.fail path kind message input
      | none => .ok (.string s)
    | _ => typeFailure "string" input path settings.typeMessage

end StringSettings

end JsonValidation
