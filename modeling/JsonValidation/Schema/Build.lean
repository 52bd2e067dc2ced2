import JsonValidation.Schema.Shape
import JsonValidation.Schema.Store

/-!
# Building schemas

Every builder returns a new node with an empty slot and leaves the nodes that it was given as they
are. What belongs to a node is copied along with it, slots included: a copied child that was compiled
stays compiled.

* `Schema.copy`: a node by value.
* `Schema.set`: a node with a setting changed.
* `Schema.asOptional`, `Schema.asNullable`, `Schema.refine`, `Schema.pipeTo`: wrappers, which hold a
  copy of what they wrap.
-/

namespace JsonValidation

/-- A change of the settings of a node. -/
inductive Setting where
  | minLen (n : Nat)
  | maxLen (n : Nat)
  | nonEmpty
  | pattern (p : Pattern)
  | min (bound : Binary64)
  | max (bound : Binary64)
  | range (low high : Binary64)
  | positive
  | negative
  | mustBeTrue
  | mustBeFalse
  | message (text : String)

/-- String settings after a change, if it applies to them. -/
def StringSettings.set? (s : StringSettings) : Setting → Option StringSettings
  | .minLen n => some (s.setMinLen n)
  | .maxLen n => some (s.setMaxLen n)
  | .nonEmpty => some s.setNonEmpty
  | .pattern p => some (s.setPattern p)
  | .message text => some (s.setMessage text)
  | _ => none

/-- Number settings after a change, if it applies to them. -/
def NumberSettings.set? (s : NumberSettings) : Setting → Option NumberSettings
  | .min bound => some (s.setMin bound)
  | .max bound => some (s.setMax bound)
  | .range low high => some (s.setRange low high)
  | .positive => some s.setPositive
  | .negative => some s.setNegative
  | .message text => some (s.setMessage text)
  | _ => none

/-- Boolean settings after a change, if it applies to them. -/
def BooleanSettings.set? (s : BooleanSettings) : Setting → Option BooleanSettings
  | .mustBeTrue => some s.setMustBeTrue
  | .mustBeFalse => some s.setMustBeFalse
  | .message text => some (s.setMessage text)
  | _ => none

/-- Array settings after a change, if it applies to them. -/
def ArraySettings.set? (s : ArraySettings) : Setting → Option ArraySettings
  | .minLen n => some (s.setMinLen n)
  | .maxLen n => some (s.setMaxLen n)
  | .nonEmpty => some s.setNonEmpty
  | .message text => some (s.setMessage text)
  | _ => none

namespace Schema

/-- A new node in a slot of its own. -/
def create (σ : Store) (node : Slot → Schema) : Schema × Store :=
  let (slot, σ) := σ.fresh
  (node slot, σ)

/-- A copy of a node and of the children that belong to it (`clone` of its kind), with what their slots
    hold. Shared children stay the same nodes. -/
def copy : Schema → Store → Schema × Store
  | string slot settings, σ =>
    let (slot, σ) := σ.copy slot
    (string slot settings, σ)
  | number slot settings, σ =>
    let (slot, σ) := σ.copy slot
    (number slot settings, σ)
  | boolean slot settings, σ =>
    let (slot, σ) := σ.copy slot
    (boolean slot settings, σ)
  | literal slot expected, σ =>
    let (slot, σ) := σ.copy slot
    (literal slot expected, σ)
  | array slot element settings, σ =>
    let (element, σ) := copy element σ
    let (slot, σ) := σ.copy slot
    (array slot element settings, σ)
  | object slot fields typeMessage, σ =>
    let (slot, σ) := σ.copy slot
    (object slot fields typeMessage, σ)
  | union slot alternatives, σ =>
    let (slot, σ) := σ.copy slot
    (union slot alternatives, σ)
  | optional slot inner, σ =>
    let (inner, σ) := copy inner σ
    let (slot, σ) := σ.copy slot
    (optional slot inner, σ)
  | nullable slot inner, σ =>
    let (inner, σ) := copy inner σ
    let (slot, σ) := σ.copy slot
    (nullable slot inner, σ)
  | refinement slot inner accepts message, σ =>
    let (inner, σ) := copy inner σ
    let (slot, σ) := σ.copy slot
    (refinement slot inner accepts message, σ)
  | pipe slot first second, σ =>
    let (first, σ) := copy first σ
    let (second, σ) := copy second σ
    let (slot, σ) := σ.copy slot
    (pipe slot first second, σ)
  | shared access inner, σ => (shared access inner, σ)

/-- The node with a setting changed, if the setting applies to it: `derive` of the kind of the node. The
    element of an array is copied along; the fields of an object are shared. -/
def set (s : Schema) (setting : Setting) (σ : Store) : Option (Schema × Store) :=
  match s.node with
  | string _ settings => do
    let settings ← settings.set? setting
    return create σ fun slot => string slot settings
  | number _ settings => do
    let settings ← settings.set? setting
    return create σ fun slot => number slot settings
  | boolean _ settings => do
    let settings ← settings.set? setting
    return create σ fun slot => boolean slot settings
  | array _ element settings => do
    let settings ← settings.set? setting
    let (element, σ) := element.copy σ
    return create σ fun slot => array slot element settings
  | object _ fields _ =>
    match setting with
    | .message text => some (create σ fun slot => object slot fields (some text))
    | _ => none
  | _ => none

/-- The object with a field declared (`ObjectSchema::field_shared`). -/
def addField (s : Schema) (name : String) (field : Schema) (σ : Store) :
    Option (Schema × Store) :=
  match s.node with
  | object _ fields typeMessage =>
    some (create σ fun slot => object slot (Shape.declare fields name field) typeMessage)
  | _ => none

/-- The object with a field declared that may be absent (`ObjectSchema::optional_field`). -/
def addOptionalField (s : Schema) (name : String) (field : Schema) (σ : Store) :
    Option (Schema × Store) :=
  let (field, σ) := create σ fun slot => optional slot field
  s.addField name field σ

/-- The object with all fields of another object declared on top of its own (`ObjectSchema::extend`). It
    keeps its own message for inputs of another type. -/
def extend (s other : Schema) (σ : Store) : Option (Schema × Store) :=
  match s.node, other.node with
  | object _ fields typeMessage, object _ others _ =>
    some (create σ fun slot => object slot (Shape.extend fields others) typeMessage)
  | _, _ => none

/-- The union with one alternative more (`UnionSchema::or`). -/
def addAlternative (s alternative : Schema) (σ : Store) : Option (Schema × Store) :=
  match s.node with
  | union _ alternatives => some (create σ fun slot => union slot (alternatives ++ [alternative]))
  | _ => none

/-- A copy of the schema that accepts absence as well (`SchemaLike::optional`). -/
def asOptional (s : Schema) (σ : Store) : Schema × Store :=
  let (inner, σ) := s.copy σ
  create σ fun slot => optional slot inner

/-- A copy of the schema that accepts null as well (`SchemaLike::nullable`). -/
def asNullable (s : Schema) (σ : Store) : Schema × Store :=
  let (inner, σ) := s.copy σ
  create σ fun slot => nullable slot inner

/-- What a refinement says that was given no message (`RefinedSchema::DEFAULT_MESSAGE`). -/
def defaultRefinementMessage : String := "Failed refinement check"

/-- A copy of the schema that accepts an output only if a predicate does (`SchemaLike::refine`). -/
def refine (s : Schema) (accepts : Output → Bool) (message : String) (σ : Store) :
    Schema × Store :=
  let (inner, σ) := s.copy σ
  create σ fun slot => refinement slot inner accepts message

/-- A copy of the schema whose output is the input of another schema (`SchemaLike::pipe`). -/
def pipeTo (s next : Schema) (σ : Store) : Schema × Store :=
  let (first, σ) := s.copy σ
  create σ fun slot => pipe slot first next

end Schema

end JsonValidation
