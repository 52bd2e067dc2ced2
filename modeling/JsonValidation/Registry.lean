import JsonValidation.Schema.Compile

/-!
# Registries

A registry gives names to shared schemas. A name can be registered once, and its schema never changes
afterwards.

* `Registry.register`: a new entry, refused if the name is taken.
* `Registry.validate`: validation by name, at the root.
* `warmAll`: compiles schemas in some order of enumeration and counts those that were not compiled when
  their turn came.
-/

namespace JsonValidation

/-- Named schemas (`SchemaRegistry`), in the order of their registration. -/
structure Registry where
  entries : List (String × Schema) := []

/-- Why a registry refuses. -/
inductive RegistryError where
  | duplicateName (name : String)
  | schemaNotFound (name : String)
deriving DecidableEq

/-- What a refusal says. -/
def RegistryError.message : RegistryError → String
  | duplicateName name => "schema '" ++ name ++ "' already registered"
  | schemaNotFound name => "schema '" ++ name ++ "' not found"

/-- Compiles schemas one after the other, and counts those that were not compiled when their turn
    came: the loop of `SchemaRegistry::warm`. -/
def warmAll : List Schema → Store → Nat × Store
  | [], σ => (0, σ)
  | schema :: rest, σ =>
    if schema.isCompiled σ then warmAll rest σ
    else
      let (_, σ) := schema.compile σ
      let (count, σ) := warmAll rest σ
      (count + 1, σ)

namespace Registry

/-- The schema with a name (`SchemaRegistry::get`). -/
def get? (r : Registry) (name : String) : Option Schema := r.entries.lookup name

/-- Adds an entry, unless the name is taken (`SchemaRegistry::register_shared`). -/
def register (r : Registry) (name : String) (schema : Schema) : Except RegistryError Registry :=
  match r.get? name with
  | some _ => .error (.duplicateName name)
  | none => .ok ⟨r.entries ++ [(name, schema)]⟩

/-- Whether one text comes before another or is equal to it, by code point. -/
def nameLe (a b : String) : Bool := !(b < a)

/-- The registered names, sorted (`SchemaRegistry::names`). -/
def names (r : Registry) : List String := (r.entries.map Prod.fst).mergeSort nameLe

/-- The number of entries (`SchemaRegistry::len`). -/
def size (r : Registry) : Nat := r.entries.length

/-- Whether there is no entry (`SchemaRegistry::is_empty`). -/
def isEmpty (r : Registry) : Bool := r.entries.isEmpty

/-- Compiles all registered schemas (`SchemaRegistry::warm`): first those with the listed names, in the
    order of the list, and then the others in the order of their registration. Every order of
    enumeration is that of some list. -/
def warm (r : Registry) (order : List String) (σ : Store) : Nat × Store :=
  warmAll (order.filterMap r.get? ++ r.entries.map Prod.snd) σ

/-- Validates a value at the root by the schema with a name (`SchemaRegistry::validate`). -/
def validate (r : Registry) (name : String) (value : Value) (σ : Store) :
    Except RegistryError (Outcome (Option Value) × Store) :=
  match r.get? name with
  | none => .error (.schemaNotFound name)
  | some schema =>
    let (routine, σ) := schema.compile σ
    .ok (routine.values (some value) .root, σ)

end Registry

end JsonValidation
