import JsonValidation.Schema.Basic

/-!
# The nodes of a schema

A schema is used as one thing, but every node in it has a slot of its own. The nodes of a schema are
the node itself and its descendants, which are the nodes of its children. Sharing is looked through: a
shared node counts as the node that it is.

* `Schema.induct`: induction over schemas, with the fields of objects and the alternatives of unions.
* `nodes_eq`: the node itself comes first, and then its descendants.
* `mem_nodes_trans`: the nodes of a node of a schema are nodes of the schema.
* `Everywhere`, `everywhere_iff`: a property of all nodes, read off the node and its children.
* `Avoids`: having no nodes of some kinds.
-/

namespace JsonValidation.Schema

/-- Induction over schemas: a property of all children of a node carries over to the node. -/
@[elab_as_elim, induction_eliminator]
theorem induct {motive : Schema → Prop}
    (string : ∀ slot settings, motive (string slot settings))
    (number : ∀ slot settings, motive (number slot settings))
    (boolean : ∀ slot settings, motive (boolean slot settings))
    (literal : ∀ slot expected, motive (literal slot expected))
    (array : ∀ slot element settings, motive element → motive (array slot element settings))
    (object : ∀ slot fields typeMessage, (∀ f ∈ fields, motive f.2) →
      motive (object slot fields typeMessage))
    (union : ∀ slot alternatives, (∀ a ∈ alternatives, motive a) →
      motive (union slot alternatives))
    (optional : ∀ slot inner, motive inner → motive (optional slot inner))
    (nullable : ∀ slot inner, motive inner → motive (nullable slot inner))
    (refinement : ∀ slot inner accepts message, motive inner →
      motive (refinement slot inner accepts message))
    (pipe : ∀ slot first second, motive first → motive second → motive (pipe slot first second))
    (shared : ∀ access inner, motive inner → motive (shared access inner)) :
    ∀ s, motive s := by
  intro s
  refine @Schema.rec motive (fun fields => ∀ f ∈ fields, motive f.2)
    (fun alternatives => ∀ a ∈ alternatives, motive a) (fun f => motive f.2) string number boolean
    literal array object union optional nullable refinement pipe shared ?_ ?_ ?_ ?_ ?_ s
  · simp
  · rintro head tail hhead htail f hf
    rcases List.mem_cons.mp hf with rfl | hf
    · exact hhead
    · exact htail f hf
  · simp
  · rintro head tail hhead htail a ha
    rcases List.mem_cons.mp ha with rfl | ha
    · exact hhead
    · exact htail a ha
  · exact fun _ _ h => h

mutual

/-- A node and its descendants, without the sharing around them. -/
def nodes : Schema → List Schema
  | array slot element settings => array slot element settings :: element.nodes
  | object slot fields typeMessage => object slot fields typeMessage :: fieldNodes fields
  | union slot alternatives => union slot alternatives :: alternativeNodes alternatives
  | optional slot inner => optional slot inner :: inner.nodes
  | nullable slot inner => nullable slot inner :: inner.nodes
  | refinement slot inner accepts message => refinement slot inner accepts message :: inner.nodes
  | pipe slot first second => pipe slot first second :: (first.nodes ++ second.nodes)
  | shared _ inner => inner.nodes
  | s => [s]

/-- The nodes of the fields of an object. -/
def fieldNodes : List (String × Schema) → List Schema
  | [] => []
  | (_, schema) :: rest => schema.nodes ++ fieldNodes rest

/-- The nodes of the alternatives of a union. -/
def alternativeNodes : List Schema → List Schema
  | [] => []
  | schema :: rest => schema.nodes ++ alternativeNodes rest

end

/-- The nodes below a node: those of its children. -/
def descendants (s : Schema) : List Schema := s.children.flatMap nodes

theorem fieldNodes_eq_flatMap (fields : List (String × Schema)) :
    fieldNodes fields = (fields.map Prod.snd).flatMap nodes := by
  induction fields with
  | nil => rfl
  | cons field rest ih => simp [fieldNodes, ih]

theorem alternativeNodes_eq_flatMap (alternatives : List Schema) :
    alternativeNodes alternatives = alternatives.flatMap nodes := by
  induction alternatives with
  | nil => rfl
  | cons schema rest ih => simp [alternativeNodes, ih]

/-! ## The node itself -/

@[simp] theorem slot_node (s : Schema) : s.node.slot = s.slot := by
  induction s with
  | shared access inner ih => exact ih
  | _ => rfl

@[simp] theorem kind_node (s : Schema) : s.node.kind = s.kind := by
  induction s with
  | shared access inner ih => exact ih
  | _ => rfl

@[simp] theorem children_node (s : Schema) : s.node.children = s.children := by
  induction s with
  | shared access inner ih => exact ih
  | _ => rfl

@[simp] theorem node_node (s : Schema) : s.node.node = s.node := by
  induction s with
  | shared access inner ih => exact ih
  | _ => rfl

@[simp] theorem nodes_node (s : Schema) : s.node.nodes = s.nodes := by
  induction s with
  | shared access inner ih => exact ih
  | _ => rfl

@[simp] theorem descendants_node (s : Schema) : s.node.descendants = s.descendants := by
  simp [descendants]

/-! ## The nodes below it -/

/-- The nodes of a schema are the node itself and its descendants. -/
theorem nodes_eq (s : Schema) : s.nodes = s.node :: s.descendants := by
  induction s with
  | object slot fields typeMessage => simp [nodes, node, descendants, children, fieldNodes_eq_flatMap]
  | union slot alternatives =>
    simp [nodes, node, descendants, children, alternativeNodes_eq_flatMap]
  | shared access inner ih => exact ih
  | _ => simp [nodes, node, descendants, children]

theorem mem_nodes {m s : Schema} : m ∈ s.nodes ↔ m = s.node ∨ m ∈ s.descendants := by
  rw [nodes_eq, List.mem_cons]

theorem mem_descendants {m s : Schema} : m ∈ s.descendants ↔ ∃ c ∈ s.children, m ∈ c.nodes := by
  simp [descendants]

theorem node_mem_nodes (s : Schema) : s.node ∈ s.nodes := mem_nodes.mpr (.inl rfl)

theorem mem_nodes_of_mem_descendants {m s : Schema} (h : m ∈ s.descendants) : m ∈ s.nodes :=
  mem_nodes.mpr (.inr h)

/-- Induction along children only, with sharing looked through: a property of all children of a node
    carries over to the node. -/
theorem child_induct {motive : Schema → Prop}
    (step : ∀ s, (∀ c ∈ s.children, motive c) → motive s) (s : Schema) : motive s := by
  -- a shared node has the children of the node that it is, so these are carried along
  suffices h : ∀ c ∈ s.children, motive c from step s h
  induction s with
  | array slot element settings ih => simpa [children] using step _ ih
  | object slot fields typeMessage ih =>
    intro c hc
    obtain ⟨f, hf, rfl⟩ := List.mem_map.mp hc
    exact step _ (ih f hf)
  | union slot alternatives ih => exact fun c hc => step c (ih c hc)
  | optional slot inner ih => simpa [children] using step _ ih
  | nullable slot inner ih => simpa [children] using step _ ih
  | refinement slot inner accepts message ih => simpa [children] using step _ ih
  | pipe slot first second ihFirst ihSecond =>
    simpa [children] using ⟨step _ ihFirst, step _ ihSecond⟩
  | shared access inner ih => exact ih
  | _ => simp [children]

theorem mem_nodes_trans {m n s : Schema} (hm : m ∈ n.nodes) (hn : n ∈ s.nodes) : m ∈ s.nodes := by
  induction s using child_induct with
  | step s ih =>
    rcases mem_nodes.mp hn with rfl | hn
    · simpa using hm
    · obtain ⟨c, hc, hn⟩ := mem_descendants.mp hn
      exact mem_nodes_of_mem_descendants (mem_descendants.mpr ⟨c, hc, ih c hc hn⟩)

/-! ## Properties of all nodes -/

/-- Whether all nodes of a schema have a property. -/
def Everywhere (P : Schema → Prop) (s : Schema) : Prop := ∀ n ∈ s.nodes, P n

/-- No node of the schema is of one of these kinds. -/
def Avoids (kinds : List SchemaKind) : Schema → Prop := Everywhere fun n => n.kind ∉ kinds

instance (kinds : List SchemaKind) (s : Schema) : Decidable (s.Avoids kinds) :=
  inferInstanceAs (Decidable (∀ n ∈ s.nodes, n.kind ∉ kinds))

theorem everywhere_iff {P : Schema → Prop} {s : Schema} :
    s.Everywhere P ↔ P s.node ∧ ∀ c ∈ s.children, c.Everywhere P := by
  constructor
  · intro h
    refine ⟨h s.node s.node_mem_nodes, fun c hc n hn => h n ?_⟩
    exact mem_nodes_of_mem_descendants (mem_descendants.mpr ⟨c, hc, hn⟩)
  · rintro ⟨hnode, hchildren⟩ n hn
    rcases mem_nodes.mp hn with rfl | hn
    · exact hnode
    · obtain ⟨c, hc, hn⟩ := mem_descendants.mp hn
      exact hchildren c hc n hn

theorem Everywhere.child {P : Schema → Prop} {s c : Schema} (h : s.Everywhere P)
    (hc : c ∈ s.children) : c.Everywhere P := (everywhere_iff.mp h).2 c hc

theorem Avoids.child {kinds : List SchemaKind} {s c : Schema} (h : s.Avoids kinds)
    (hc : c ∈ s.children) : c.Avoids kinds := Everywhere.child h hc

theorem Avoids.kind_notMem {kinds : List SchemaKind} {s : Schema} (h : s.Avoids kinds) :
    s.kind ∉ kinds := by
  have hnode : s.node.kind ∉ kinds := h s.node s.node_mem_nodes
  rwa [kind_node] at hnode

end JsonValidation.Schema
