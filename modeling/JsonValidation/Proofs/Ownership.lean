import JsonValidation.Schema.Interpret
import JsonValidation.Schema.Nodes
import JsonValidation.Schema.Store

/-!
# Owners of slots

A node is found again by its slot: the same slot means the same node, wherever the node is embedded.
An ownership says which node a slot belongs to. A schema is placed when all its nodes use the slots
that are theirs, and a store is coherent when every routine that it holds is the interpreter of the
node that owns the slot.

* `Schema.Placed`, `Store.Coherent`: the two invariants.
* `Placed.child`, `Placed.slot_lt`: they hold for children too, and slots decrease on the way down.
* `Coherent.routine_eq`, `Coherent.nodes_populated`: what a placed node can rely on.
* `Store.Extends`: the change from one store to a later one that creates nodes and leaves the nodes
  that exist as they are.
-/

namespace JsonValidation

/-- Which node a slot belongs to. What it says of slots that no node uses is of no importance. -/
abbrev Ownership := Slot → Schema

/-- All nodes of a schema use the slots that they own, which are below a bound, and every child has an
    earlier slot than its parent. -/
structure Schema.Placed (owner : Ownership) (bound : Slot) (s : Schema) : Prop where
  owned : ∀ n ∈ s.nodes, owner n.slot = n
  below : ∀ n ∈ s.nodes, n.slot < bound
  ordered : ∀ n ∈ s.nodes, ∀ c ∈ n.children, c.slot < n.slot

/-- Every slot that holds a routine belongs to a placed node, the routine does what the interpreter of
    this node does, and the slots of all its descendants hold routines as well. -/
structure Store.Coherent (owner : Ownership) (σ : Store) : Prop where
  placed : ∀ k, σ.populated k → (owner k).slot = k ∧ (owner k).Placed owner σ.next
  agrees : ∀ k r, σ.routine? k = some r → r = (owner k).interpret
  closed : ∀ k, σ.populated k → ∀ d ∈ (owner k).descendants, σ.populated d.slot

/-- A later store, with new nodes in new slots. The slots that were in use before are as they were. -/
structure Store.Extends (owner : Ownership) (σ : Store) (owner' : Ownership) (σ' : Store) :
    Prop where
  next_le : σ.next ≤ σ'.next
  owner_eq : ∀ k < σ.next, owner' k = owner k
  caches_eq : ∀ k < σ.next, σ'.caches k = σ.caches k
  history_eq : σ'.history = σ.history
  coherent : σ'.Coherent owner'

namespace Schema

@[simp] theorem interpret_node (s : Schema) : s.node.interpret = s.interpret := by
  induction s with
  | shared access inner ih => exact ih
  | _ => rfl

namespace Placed

variable {owner owner' : Ownership} {bound bound' : Slot} {s : Schema}

theorem owner_slot (h : s.Placed owner bound) : owner s.slot = s.node := by
  simpa using h.owned _ s.node_mem_nodes

theorem slot_lt_bound (h : s.Placed owner bound) : s.slot < bound := by
  simpa using h.below _ s.node_mem_nodes

/-- The nodes of a placed schema are placed. -/
theorem of_nodes_subset {t : Schema} (h : s.Placed owner bound) (hsub : ∀ n ∈ t.nodes, n ∈ s.nodes) :
    t.Placed owner bound :=
  ⟨fun n hn => h.owned n (hsub n hn), fun n hn => h.below n (hsub n hn),
    fun n hn => h.ordered n (hsub n hn)⟩

theorem of_mem_nodes {n : Schema} (h : s.Placed owner bound) (hn : n ∈ s.nodes) :
    n.Placed owner bound :=
  h.of_nodes_subset fun _ hm => mem_nodes_trans hm hn

theorem child (h : s.Placed owner bound) {c : Schema} (hc : c ∈ s.children) :
    c.Placed owner bound :=
  h.of_nodes_subset fun _ hn => mem_nodes_of_mem_descendants (mem_descendants.mpr ⟨c, hc, hn⟩)

theorem node (h : s.Placed owner bound) : s.node.Placed owner bound :=
  h.of_nodes_subset fun n hn => by simpa using hn

/-- Slots decrease on the way down. -/
theorem slot_lt (h : s.Placed owner bound) {d : Schema} (hd : d ∈ s.descendants) :
    d.slot < s.slot := by
  induction s using child_induct with
  | step s ih =>
    obtain ⟨c, hc, hd⟩ := mem_descendants.mp hd
    have hcs : c.slot < s.slot := by
      simpa using h.ordered _ s.node_mem_nodes c (by simpa using hc)
    rcases mem_nodes.mp hd with rfl | hd
    · simpa using hcs
    · exact Nat.lt_trans (ih c hc (h.child hc) hd) hcs

/-- A node is placed when its children are and it owns a later slot than all of them. -/
theorem of_children (hnode : s.node = s) (howner : owner s.slot = s) (hbound : s.slot < bound)
    (hchildren : ∀ c ∈ s.children, c.Placed owner bound ∧ c.slot < s.slot) :
    s.Placed owner bound := by
  have hcase : ∀ n ∈ s.nodes, n = s ∨ ∃ c ∈ s.children, n ∈ c.nodes := by
    intro n hn
    rwa [mem_nodes, hnode, mem_descendants] at hn
  refine ⟨fun n hn => ?_, fun n hn => ?_, fun n hn => ?_⟩
  · rcases hcase n hn with rfl | ⟨c, hc, hn⟩
    · exact howner
    · exact (hchildren c hc).1.owned n hn
  · rcases hcase n hn with rfl | ⟨c, hc, hn⟩
    · exact hbound
    · exact (hchildren c hc).1.below n hn
  · rcases hcase n hn with rfl | ⟨c, hc, hn⟩
    · exact fun c hc => (hchildren c hc).2
    · exact (hchildren c hc).1.ordered n hn

/-- A schema stays placed when only later slots change owners. -/
theorem mono (h : s.Placed owner bound) (hbound : bound ≤ bound')
    (howner : ∀ k < bound, owner' k = owner k) : s.Placed owner' bound' := by
  refine ⟨fun n hn => ?_, fun n hn => Nat.lt_of_lt_of_le (h.below n hn) hbound, h.ordered⟩
  rw [howner _ (h.below n hn), h.owned n hn]

end Placed

end Schema

namespace Store

variable {owner owner' owner'' : Ownership} {σ σ' σ'' : Store} {s : Schema}

theorem populated_iff {k : Slot} : σ.populated k ↔ ∃ r, σ.routine? k = some r := by
  rw [populated_eq_isSome, Option.isSome_iff_exists]

theorem populated_of_routine? {k : Slot} {r : Routine} (h : σ.routine? k = some r) :
    σ.populated k := populated_iff.mpr ⟨r, h⟩

namespace Coherent

theorem lt_next (h : σ.Coherent owner) {k : Slot} (hk : σ.populated k) : k < σ.next := by
  obtain ⟨hslot, hplaced⟩ := h.placed k hk
  simpa [hslot] using hplaced.slot_lt_bound

/-- Slots that are not in use are empty. -/
theorem not_populated (h : σ.Coherent owner) {k : Slot} (hk : σ.next ≤ k) : σ.populated k = false := by
  rw [Bool.eq_false_iff]
  exact fun hp => Nat.not_lt.mpr hk (h.lt_next hp)

/-- What the slot of a placed node holds is the interpreter of this node. -/
theorem routine_eq (h : σ.Coherent owner) (hs : s.Placed owner σ.next) {r : Routine}
    (hr : σ.routine? s.slot = some r) : r = s.interpret := by
  rw [h.agrees _ r hr, hs.owner_slot, Schema.interpret_node]

/-- A compiled node has compiled descendants only. -/
theorem nodes_populated (h : σ.Coherent owner) (hs : s.Placed owner σ.next)
    (hp : σ.populated s.slot) : ∀ n ∈ s.nodes, σ.populated n.slot := by
  intro n hn
  rcases Schema.mem_nodes.mp hn with rfl | hn
  · simpa using hp
  · exact h.closed _ hp n (by simpa [hs.owner_slot] using hn)

end Coherent

namespace Extends

theorem refl (h : σ.Coherent owner) : Extends owner σ owner σ :=
  ⟨Nat.le_refl _, fun _ _ => rfl, fun _ _ => rfl, rfl, h⟩

theorem trans (h₁ : Extends owner σ owner' σ') (h₂ : Extends owner' σ' owner'' σ'') :
    Extends owner σ owner'' σ'' where
  next_le := Nat.le_trans h₁.next_le h₂.next_le
  owner_eq k hk := by
    rw [h₂.owner_eq k (Nat.lt_of_lt_of_le hk h₁.next_le), h₁.owner_eq k hk]
  caches_eq k hk := by
    rw [h₂.caches_eq k (Nat.lt_of_lt_of_le hk h₁.next_le), h₁.caches_eq k hk]
  history_eq := by rw [h₂.history_eq, h₁.history_eq]
  coherent := h₂.coherent

theorem populated_eq (h : Extends owner σ owner' σ') {k : Slot} (hk : k < σ.next) :
    σ'.populated k = σ.populated k := by
  unfold populated
  rw [h.caches_eq k hk]

/-- What was placed before is placed afterwards. -/
theorem placed (h : Extends owner σ owner' σ') (hs : s.Placed owner σ.next) :
    s.Placed owner' σ'.next :=
  hs.mono h.next_le h.owner_eq

end Extends

end Store

end JsonValidation
