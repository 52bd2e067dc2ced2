import JsonValidation.Schema.Array
import JsonValidation.Schema.Boolean
import JsonValidation.Schema.Literal
import JsonValidation.Schema.Number
import JsonValidation.Schema.String

/-!
# Schemas

A schema is a tree of nodes. Every node has a slot of its own, which is where a compiled routine of the
node is kept. A child either belongs to its parent, so that a copy of the parent copies the child, or
stands behind `shared` and is the same node wherever it is embedded. The fields of an object and the
alternatives of a union always count as shared.

* `Schema.kind`, `Schema.slot`: of the node itself, looking through `shared`.
* `Schema.children`: the nodes that a node's routine is made from.
-/

namespace JsonValidation

/-- The kinds of nodes. -/
inductive SchemaKind where
  | string
  | number
  | boolean
  | literal
  | array
  | object
  | union
  | optional
  | nullable
  | refinement
  | pipe
deriving DecidableEq

namespace SchemaKind

/-- The name of a kind (`SchemaKind::name`). -/
def name : SchemaKind → String
  | string => "string"
  | number => "number"
  | boolean => "boolean"
  | literal => "literal"
  | array => "array"
  | object => "object"
  | union => "union"
  | optional => "optional"
  | nullable => "nullable"
  | refinement => "refinement"
  | pipe => "pipe"

/-- The name of a kind as a heading. -/
def title : SchemaKind → String
  | string => "String"
  | number => "Number"
  | boolean => "Boolean"
  | literal => "Literal"
  | array => "Array"
  | object => "Object"
  | union => "Union"
  | optional => "Optional"
  | nullable => "Nullable"
  | refinement => "Refinement"
  | pipe => "Pipe"

end SchemaKind

/-- Where the compiled routine of a node is kept. -/
abbrev Slot := Nat

/-- How a shared node was obtained. -/
inductive Access where
  /-- As the node itself. -/
  | direct
  /-- Through the registry, which shows the kind of a node and whether it is compiled, but nothing
      else of it. -/
  | registry
  /-- As a field of an object, which shows as little. -/
  | field
deriving DecidableEq

/-- A schema. -/
inductive Schema where
  | string (slot : Slot) (settings : StringSettings)
  | number (slot : Slot) (settings : NumberSettings)
  | boolean (slot : Slot) (settings : BooleanSettings)
  | literal (slot : Slot) (expected : Literal)
  | array (slot : Slot) (element : Schema) (settings : ArraySettings)
  | object (slot : Slot) (fields : List (String × Schema)) (typeMessage : Option String)
  | union (slot : Slot) (alternatives : List Schema)
  | optional (slot : Slot) (inner : Schema)
  | nullable (slot : Slot) (inner : Schema)
  | refinement (slot : Slot) (inner : Schema) (accepts : Output → Bool) (message : String)
  | pipe (slot : Slot) (first second : Schema)
  | shared (access : Access) (inner : Schema)

namespace Schema

/-- The kind of a node (`SchemaLike::kind`). -/
def kind : Schema → SchemaKind
  | string .. => .string
  | number .. => .number
  | boolean .. => .boolean
  | literal .. => .literal
  | array .. => .array
  | object .. => .object
  | union .. => .union
  | optional .. => .optional
  | nullable .. => .nullable
  | refinement .. => .refinement
  | pipe .. => .pipe
  | shared _ inner => inner.kind

/-- The slot of a node (`SchemaLike::routine_cache`). -/
def slot : Schema → Slot
  | string slot _ => slot
  | number slot _ => slot
  | boolean slot _ => slot
  | literal slot _ => slot
  | array slot .. => slot
  | object slot .. => slot
  | union slot _ => slot
  | optional slot _ => slot
  | nullable slot _ => slot
  | refinement slot .. => slot
  | pipe slot .. => slot
  | shared _ inner => inner.slot

/-- The node itself, without the sharing around it. -/
def node : Schema → Schema
  | shared _ inner => inner.node
  | s => s

/-- The nodes that a node's routine is made from, in the order in which they are compiled. -/
def children : Schema → List Schema
  | array _ element _ => [element]
  | object _ fields _ => fields.map Prod.snd
  | union _ alternatives => alternatives
  | optional _ inner => [inner]
  | nullable _ inner => [inner]
  | refinement _ inner _ _ => [inner]
  | pipe _ first second => [first, second]
  | shared _ inner => inner.children
  | _ => []

end Schema

end JsonValidation
