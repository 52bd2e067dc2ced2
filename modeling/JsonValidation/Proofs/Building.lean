import JsonValidation.Proofs.Agreement
import JsonValidation.Proofs.Ownership
import JsonValidation.Schema.Build

/-!
# Building placed schemas

A builder makes new nodes in new slots. Given placed schemas and a coherent store, it leaves a placed
schema and a coherent store, in which the nodes that existed have the owners and the caches they had.

* `Store.Allocates`, `Extends.allocate`: one new node, whose slot starts empty or with a routine that
  suits it.
* `Store.Yields`, `Store.Fresh`: what a builder returns, and that its node is new and not compiled.
* `copy_copied`: a copy is interpreted as its original is, and is compiled where the original is.
* `create_built`, `set_built`, `addField_built` and the like: the builders one by one.
-/

namespace JsonValidation

/-- The ownership after a node was put into its slot. -/
def Ownership.give (owner : Ownership) (n : Schema) : Ownership :=
  fun k => if k = n.slot then n else owner k

theorem Ownership.give_slot (owner : Ownership) (n : Schema) : owner.give n n.slot = n := if_pos rfl

theorem Ownership.give_of_ne (owner : Ownership) {n : Schema} {k : Slot} (hk : k ≠ n.slot) :
    owner.give n k = owner k := if_neg hk

namespace Store

variable {owner owner' : Ownership} {σ σ' τ : Store} {n s : Schema}

/-- A change of the store that hands out the next slot and touches no slot in use. -/
structure Allocates (σ τ : Store) : Prop where
  next_eq : τ.next = σ.next + 1
  caches_eq : ∀ k, k ≠ σ.next → τ.caches k = σ.caches k
  history_eq : τ.history = σ.history

theorem allocates_fresh (σ : Store) : Allocates σ σ.fresh.2 := ⟨rfl, fun _ _ => rfl, rfl⟩

theorem allocates_copy (σ : Store) (slot : Slot) : Allocates σ (σ.copy slot).2 :=
  ⟨rfl, fun k hk => by rw [caches_copy, if_neg hk], rfl⟩

namespace Allocates

theorem next_le (h : Allocates σ τ) : σ.next ≤ τ.next := by
  rw [h.next_eq]
  exact Nat.le_succ _

theorem routine?_eq (h : Allocates σ τ) {k : Slot} (hk : k ≠ σ.next) :
    τ.routine? k = σ.routine? k := by
  rw [routine?, routine?, h.caches_eq k hk]

theorem populated_eq (h : Allocates σ τ) {k : Slot} (hk : k ≠ σ.next) :
    τ.populated k = σ.populated k := by
  rw [populated, populated, h.caches_eq k hk]

/-- What was placed before stays placed when the next slot goes to a new node. -/
theorem placed (h : Allocates σ τ) (hslot : n.slot = σ.next) (hs : s.Placed owner σ.next) :
    s.Placed (owner.give n) τ.next :=
  hs.mono h.next_le fun k hk => owner.give_of_ne (by rw [hslot]; exact Nat.ne_of_lt hk)

/-- The new node is placed over placed children. -/
theorem new_placed (h : Allocates σ τ) (hnode : n.node = n) (hslot : n.slot = σ.next)
    (hchildren : ∀ c ∈ n.children, c.Placed owner σ.next) : n.Placed (owner.give n) τ.next := by
  have hlt : n.slot < τ.next := by
    rw [hslot, h.next_eq]
    exact Nat.lt_succ_self _
  refine .of_children hnode (owner.give_slot n) hlt fun c hc => ⟨h.placed hslot (hchildren c hc), ?_⟩
  rw [hslot]
  exact (hchildren c hc).slot_lt_bound

/-- The store stays coherent if what the new slot holds, if anything, suits the new node. -/
theorem coherent (h : Allocates σ τ) (hσ : σ.Coherent owner) (hnode : n.node = n)
    (hslot : n.slot = σ.next) (hchildren : ∀ c ∈ n.children, c.Placed owner σ.next)
    (hheld : ∀ r, τ.routine? σ.next = some r →
      r = n.interpret ∧ ∀ d ∈ n.descendants, σ.populated d.slot) :
    τ.Coherent (owner.give n) := by
  have hnew : owner.give n σ.next = n := by rw [← hslot, owner.give_slot]
  have hold : ∀ k, k ≠ σ.next → owner.give n k = owner k :=
    fun k hk => owner.give_of_ne (by rwa [hslot])
  refine ⟨fun k hk => ?_, fun k r hr => ?_, fun k hk d hd => ?_⟩
  · by_cases hkn : k = σ.next
    · rw [hkn, hnew]
      exact ⟨hslot, h.new_placed hnode hslot hchildren⟩
    · rw [h.populated_eq hkn] at hk
      rw [hold k hkn]
      exact ⟨(hσ.placed k hk).1, h.placed hslot (hσ.placed k hk).2⟩
  · by_cases hkn : k = σ.next
    · rw [hkn] at hr ⊢
      rw [hnew]
      exact (hheld r hr).1
    · rw [h.routine?_eq hkn] at hr
      rw [hold k hkn]
      exact hσ.agrees k r hr
  · -- the slots below `k` are older than the new one
    suffices hd : σ.populated d.slot by
      rw [h.populated_eq (Nat.ne_of_lt (hσ.lt_next hd))]
      exact hd
    by_cases hkn : k = σ.next
    · rw [hkn] at hk hd
      rw [hnew] at hd
      obtain ⟨r, hr⟩ := populated_iff.mp hk
      exact (hheld r hr).2 d hd
    · rw [h.populated_eq hkn] at hk
      rw [hold k hkn] at hd
      exact hσ.closed k hk d hd

end Allocates

/-- One new node, in the next slot. -/
theorem Extends.allocate (h : Extends owner σ owner' σ') (ha : Allocates σ' τ) (hnode : n.node = n)
    (hslot : n.slot = σ'.next) (hchildren : ∀ c ∈ n.children, c.Placed owner' σ'.next)
    (hheld : ∀ r, τ.routine? σ'.next = some r →
      r = n.interpret ∧ ∀ d ∈ n.descendants, σ'.populated d.slot) :
    Extends owner σ (owner'.give n) τ :=
  h.trans
    { next_le := ha.next_le
      owner_eq := fun k hk => owner'.give_of_ne (by rw [hslot]; exact Nat.ne_of_lt hk)
      caches_eq := fun k hk => ha.caches_eq k (Nat.ne_of_lt hk)
      history_eq := ha.history_eq
      coherent := ha.coherent h.coherent hnode hslot hchildren hheld }

/-- Which nodes of a schema are compiled, in the order of the nodes. -/
def flags (σ : Store) (s : Schema) : List Bool := s.nodes.map fun n => σ.populated n.slot

/-- The same without the node itself. -/
def flagsBelow (σ : Store) (s : Schema) : List Bool :=
  s.descendants.map fun d => σ.populated d.slot

theorem flags_eq (σ : Store) (s : Schema) : σ.flags s = σ.populated s.slot :: σ.flagsBelow s := by
  rw [flags, Schema.nodes_eq, List.map_cons, Schema.slot_node, flagsBelow]

theorem flagsBelow_eq (σ : Store) (s : Schema) : σ.flagsBelow s = s.children.flatMap σ.flags :=
  List.map_flatMap ..

/-- Later changes do not change the flags of a placed schema. -/
theorem Extends.flags_eq (h : Extends owner σ owner' σ') (hs : s.Placed owner σ.next) :
    σ'.flags s = σ.flags s :=
  List.map_congr_left fun n hn => h.populated_eq (hs.below n hn)

/-- A compiled node is above compiled nodes, and so is what has the same flags below it. -/
theorem Coherent.populated_below (h : σ.Coherent owner) (hs : s.Placed owner σ.next)
    (hp : σ.populated s.slot) (hflags : σ'.flagsBelow n = σ.flagsBelow s) :
    ∀ d ∈ n.descendants, σ'.populated d.slot := by
  intro d hd
  have hmem : σ'.populated d.slot ∈ σ'.flagsBelow n := List.mem_map_of_mem hd
  rw [hflags] at hmem
  obtain ⟨e, he, hsame⟩ := List.mem_map.mp hmem
  rw [← hsame]
  exact h.nodes_populated hs hp e (Schema.mem_nodes_of_mem_descendants he)

/-- The result of a builder: a placed schema in an extended store. -/
def Yields (owner : Ownership) (σ : Store) (result : Schema × Store) : Prop :=
  ∃ owner', Extends owner σ owner' result.2 ∧ result.1.Placed owner' result.2.next

/-- The node of the result is new and not compiled. -/
def Fresh (σ : Store) (result : Schema × Store) : Prop :=
  σ.next ≤ result.1.slot ∧ result.2.populated result.1.slot = false

/-- The result of a builder that makes a new node. -/
def Built (owner : Ownership) (σ : Store) (result : Schema × Store) : Prop :=
  Yields owner σ result ∧ Fresh σ result

theorem Yields.after {result : Schema × Store} (h : Extends owner σ owner' σ')
    (hresult : Yields owner' σ' result) : Yields owner σ result := by
  obtain ⟨owner'', hextends, hplaced⟩ := hresult
  exact ⟨owner'', h.trans hextends, hplaced⟩

theorem Built.after {result : Schema × Store} (h : Extends owner σ owner' σ')
    (hresult : Built owner' σ' result) : Built owner σ result :=
  ⟨hresult.1.after h, Nat.le_trans h.next_le hresult.2.1, hresult.2.2⟩

end Store

namespace Schema

open Store

variable {owner owner' : Ownership} {σ σ' : Store} {s : Schema}

/-- A new node over children that were placed in an extended store. -/
theorem create_built (h : Extends owner σ owner' σ') (node : Slot → Schema)
    (hnode : ∀ k, (node k).node = node k) (hslot : ∀ k, (node k).slot = k)
    (hchildren : ∀ k, ∀ c ∈ (node k).children, c.Placed owner' σ'.next) :
    Built owner σ (create σ' node) := by
  have hempty : (create σ' node).2.populated σ'.next = false :=
    h.coherent.not_populated (Nat.le_refl _)
  have hnew : (create σ' node).1.slot = σ'.next := hslot σ'.next
  have hextends : Extends owner σ _ (create σ' node).2 :=
    h.allocate (allocates_fresh σ') (hnode σ'.next) hnew (hchildren σ'.next) fun r hr => by
      rw [populated_of_routine? hr] at hempty
      cases hempty
  have hplaced := (allocates_fresh σ').new_placed (hnode σ'.next) hnew (hchildren σ'.next)
  refine ⟨⟨_, hextends, hplaced⟩, ?_, ?_⟩
  · rw [hnew]
    exact h.next_le
  · rw [hnew]
    exact hempty

/-! ## Copies -/

/-- The result of a copy: a placed schema that is interpreted as the original is, and whose nodes are
    compiled where those of the original are. -/
def Copied (owner : Ownership) (σ : Store) (s : Schema) (result : Schema × Store) : Prop :=
  ∃ owner', Extends owner σ owner' result.2 ∧ result.1.Placed owner' result.2.next ∧
    result.1.interpret = s.interpret ∧ result.2.flags result.1 = σ.flags s

/-- A new node with what the slot of `s` holds, over children that were placed in an extended store
    and that are compiled where those of `s` are. -/
theorem Copied.of_children {n : Schema} (hs : s.Placed owner σ.next) (h : Extends owner σ owner' σ')
    (hσ : σ.Coherent owner) (hnode : n.node = n) (hslot : n.slot = σ'.next)
    (hinterpret : n.interpret = s.interpret)
    (hchildren : ∀ c ∈ n.children, c.Placed owner' σ'.next)
    (hflags : σ'.flagsBelow n = σ.flagsBelow s) :
    Copied owner σ s (n, (σ'.copy s.slot).2) := by
  have ha := allocates_copy σ' s.slot
  have hroutine : (σ'.copy s.slot).2.routine? n.slot = σ.routine? s.slot := by
    rw [routine?, routine?, hslot, caches_copy, if_pos rfl, h.caches_eq _ hs.slot_lt_bound]
  have hheld : ∀ r, (σ'.copy s.slot).2.routine? σ'.next = some r →
      r = n.interpret ∧ ∀ d ∈ n.descendants, σ'.populated d.slot := by
    intro r hr
    rw [← hslot, hroutine] at hr
    exact ⟨by rw [hinterpret, hσ.routine_eq hs hr],
      hσ.populated_below hs (populated_of_routine? hr) hflags⟩
  have hbelow : (σ'.copy s.slot).2.flagsBelow n = σ'.flagsBelow n := by
    refine List.map_congr_left fun d hd => ha.populated_eq (Nat.ne_of_lt ?_)
    obtain ⟨c, hc, hd⟩ := mem_descendants.mp hd
    exact (hchildren c hc).below d hd
  refine ⟨_, h.allocate ha hnode hslot hchildren hheld, ha.new_placed hnode hslot hchildren,
    hinterpret, ?_⟩
  show (σ'.copy s.slot).2.flags n = σ.flags s
  rw [flags_eq, flags_eq, hbelow, hflags, populated_eq_isSome, hroutine, populated_eq_isSome]

/-- A copy of a node with one child that belongs to it. -/
theorem Copied.of_child {c n : Schema} {copied : Schema × Store} (hs : s.Placed owner σ.next)
    (hσ : σ.Coherent owner) (hc : s.children = [c]) (h : Copied owner σ c copied)
    (hnode : n.node = n) (hslot : n.slot = copied.2.next) (hchildren : n.children = [copied.1])
    (hinterpret : copied.1.interpret = c.interpret → n.interpret = s.interpret) :
    Copied owner σ s (n, (copied.2.copy s.slot).2) := by
  obtain ⟨owner', hextends, hplaced, hsame, hflags⟩ := h
  refine .of_children hs hextends hσ hnode hslot (hinterpret hsame) (fun d hd => ?_) ?_
  · obtain rfl : d = copied.1 := by simpa [hchildren] using hd
    exact hplaced
  · simpa [flagsBelow_eq, hchildren, hc] using hflags

/-- A copy of a node whose children are shared. -/
theorem Copied.of_shared_children {n : Schema} (hs : s.Placed owner σ.next) (hσ : σ.Coherent owner)
    (hnode : n.node = n) (hslot : n.slot = σ.next) (hinterpret : n.interpret = s.interpret)
    (hchildren : n.children = s.children) : Copied owner σ s (n, (σ.copy s.slot).2) := by
  refine .of_children hs (.refl hσ) hσ hnode hslot hinterpret (fun c hc => ?_) ?_
  · rw [hchildren] at hc
    exact hs.child hc
  · rw [flagsBelow_eq, flagsBelow_eq, hchildren]

/-- **Copying.** A copy of a placed schema is placed, is interpreted as its original is, and is
    compiled where the original is. -/
theorem copy_copied (s : Schema) :
    ∀ (owner : Ownership) (σ : Store), σ.Coherent owner → s.Placed owner σ.next →
      Copied owner σ s (s.copy σ) := by
  induction s with
  | array slot element settings ih =>
    intro owner σ h hs
    have hplaced := hs.child (c := element) (List.mem_singleton.mpr rfl)
    refine .of_child hs h rfl (ih owner σ h hplaced) rfl rfl rfl fun hsame => ?_
    rw [← routine_array, ← routine_array, hsame]
  | object slot fields typeMessage =>
    intro owner σ h hs
    refine .of_shared_children hs h rfl rfl ?_ rfl
    rw [← routine_object, ← routine_object]
  | union slot alternatives =>
    intro owner σ h hs
    refine .of_shared_children hs h rfl rfl ?_ rfl
    rw [← routine_union, ← routine_union]
  | optional slot inner ih =>
    intro owner σ h hs
    have hplaced := hs.child (c := inner) (List.mem_singleton.mpr rfl)
    refine .of_child hs h rfl (ih owner σ h hplaced) rfl rfl rfl fun hsame => ?_
    rw [← routine_optional, ← routine_optional, hsame]
  | nullable slot inner ih =>
    intro owner σ h hs
    have hplaced := hs.child (c := inner) (List.mem_singleton.mpr rfl)
    refine .of_child hs h rfl (ih owner σ h hplaced) rfl rfl rfl fun hsame => ?_
    rw [← routine_nullable, ← routine_nullable, hsame]
  | refinement slot inner accepts message ih =>
    intro owner σ h hs
    have hplaced := hs.child (c := inner) (List.mem_singleton.mpr rfl)
    refine .of_child hs h rfl (ih owner σ h hplaced) rfl rfl rfl fun hsame => ?_
    rw [← routine_refinement, ← routine_refinement, hsame]
  | pipe slot first second ihFirst ihSecond =>
    intro owner σ h hs
    have hfirst := hs.child (c := first) List.mem_cons_self
    have hsecond := hs.child (c := second) (List.mem_cons_of_mem _ List.mem_cons_self)
    obtain ⟨owner₁, hext₁, hplaced₁, hsame₁, hflags₁⟩ := ihFirst owner σ h hfirst
    obtain ⟨owner₂, hext₂, hplaced₂, hsame₂, hflags₂⟩ :=
      ihSecond owner₁ _ hext₁.coherent (hext₁.placed hsecond)
    refine .of_children hs (hext₁.trans hext₂) h rfl rfl ?_ (fun c hc => ?_) ?_
    · rw [← routine_pipe, ← routine_pipe, hsame₁, hsame₂]
    · rcases (List.mem_cons.mp hc).imp_right List.mem_singleton.mp with rfl | rfl
      · exact hext₂.placed hplaced₁
      · exact hplaced₂
    · rw [hext₁.flags_eq hsecond] at hflags₂
      have hfirst' := (hext₂.flags_eq hplaced₁).trans hflags₁
      simp [flagsBelow_eq, children, hfirst', hflags₂]
  | shared access inner ih =>
    exact fun owner σ h hs => ⟨owner, .refl h, hs, rfl, rfl⟩
  | _ =>
    intro owner σ h hs
    exact .of_shared_children hs h rfl rfl rfl rfl

/-! ## Builders -/

/-- A new node around a copy of a schema. -/
theorem create_copy_built (h : σ.Coherent owner) (hs : s.Placed owner σ.next)
    (node : Schema → Slot → Schema) (hnode : ∀ c k, (node c k).node = node c k)
    (hslot : ∀ c k, (node c k).slot = k)
    (hchildren : ∀ c k, ∀ d ∈ (node c k).children, d = c ∨ d.Placed owner σ.next) :
    Built owner σ (create (s.copy σ).2 (node (s.copy σ).1)) := by
  obtain ⟨owner', hextends, hplaced, -⟩ := copy_copied s owner σ h hs
  refine create_built hextends _ (hnode _) (hslot _) fun k d hd => ?_
  rcases hchildren _ k d hd with rfl | hd
  · exact hplaced
  · exact hextends.placed hd

/-- A new node with changed settings, if the change applies. -/
theorem built_of_changed {α : Type} {changed : Option α} {make : α → Schema × Store}
    {result : Schema × Store} (hresult : (changed >>= fun c => some (make c)) = some result)
    (hmake : ∀ c, Built owner σ (make c)) : Built owner σ result := by
  obtain ⟨c, -, hresult⟩ := Option.bind_eq_some_iff.mp hresult
  rw [← Option.some.inj hresult]
  exact hmake c

/-- The changed node is new, with a copy of the element if it is an array. -/
theorem set_built (h : σ.Coherent owner) (hs : s.Placed owner σ.next) {setting : Setting}
    {result : Schema × Store} (hresult : s.set setting σ = some result) :
    Built owner σ result := by
  have hplaced := hs.node
  unfold set at hresult
  split at hresult
  · exact built_of_changed hresult fun changed =>
      create_built (.refl h) _ (fun _ => rfl) (fun _ => rfl) (by simp [children])
  · exact built_of_changed hresult fun changed =>
      create_built (.refl h) _ (fun _ => rfl) (fun _ => rfl) (by simp [children])
  · exact built_of_changed hresult fun changed =>
      create_built (.refl h) _ (fun _ => rfl) (fun _ => rfl) (by simp [children])
  · rename_i hnode
    rw [hnode] at hplaced
    exact built_of_changed hresult fun changed =>
      create_copy_built h (hplaced.child (List.mem_singleton.mpr rfl))
        (fun c k => array k c changed) (fun _ _ => rfl) (fun _ _ => rfl) (by simp [children])
  · rename_i hnode
    rw [hnode] at hplaced
    split at hresult
    · obtain rfl := Option.some.inj hresult
      exact create_built (.refl h) _ (fun _ => rfl) (fun _ => rfl) fun _ c hc => hplaced.child hc
    · cases hresult
  · cases hresult

/-- A new object whose fields are all placed. -/
theorem create_object_built (h : Extends owner σ owner' σ') {fields : List (String × Schema)}
    (hfields : ∀ f ∈ fields, f.2.Placed owner' σ'.next) (typeMessage : Option String) :
    Built owner σ (create σ' fun slot => object slot fields typeMessage) := by
  refine create_built h _ (fun _ => rfl) (fun _ => rfl) fun k c hc => ?_
  obtain ⟨f, hf, rfl⟩ := List.mem_map.mp hc
  exact hfields f hf

theorem fields_placed {slot : Slot} {fields : List (String × Schema)} {typeMessage : Option String}
    {bound : Slot} (hs : s.Placed owner bound) (hnode : s.node = object slot fields typeMessage) :
    ∀ f ∈ fields, f.2.Placed owner bound := by
  have hplaced := hs.node
  rw [hnode] at hplaced
  exact fun f hf => hplaced.child (List.mem_map_of_mem hf)

theorem addField_built (h : Extends owner σ owner' σ') (hs : s.Placed owner' σ'.next)
    {field : Schema} (hfield : field.Placed owner' σ'.next) {name : String}
    {result : Schema × Store} (hresult : s.addField name field σ' = some result) :
    Built owner σ result := by
  unfold addField at hresult
  split at hresult
  · rename_i hnode
    obtain rfl := Option.some.inj hresult
    refine create_object_built h (fun f hf => ?_) _
    rcases Shape.mem_declare hf with rfl | hf
    · exact hfield
    · exact fields_placed hs hnode f hf
  · cases hresult

theorem addOptionalField_built (h : σ.Coherent owner) (hs : s.Placed owner σ.next)
    {field : Schema} (hfield : field.Placed owner σ.next) {name : String}
    {result : Schema × Store} (hresult : s.addOptionalField name field σ = some result) :
    Built owner σ result := by
  obtain ⟨⟨owner', hextends, hoptional⟩, -⟩ :=
    create_built (.refl h) (fun slot => optional slot field) (fun _ => rfl) (fun _ => rfl)
      (by simpa [children] using hfield)
  exact addField_built hextends (hextends.placed hs) hoptional hresult

theorem extend_built (h : σ.Coherent owner) (hs : s.Placed owner σ.next) {other : Schema}
    (hother : other.Placed owner σ.next) {result : Schema × Store}
    (hresult : s.extend other σ = some result) : Built owner σ result := by
  unfold extend at hresult
  split at hresult
  · rename_i hnode hnode'
    obtain rfl := Option.some.inj hresult
    refine create_object_built (.refl h) (fun f hf => ?_) _
    rcases Shape.mem_extend hf with hf | hf
    · exact fields_placed hs hnode f hf
    · exact fields_placed hother hnode' f hf
  · cases hresult

theorem addAlternative_built (h : σ.Coherent owner) (hs : s.Placed owner σ.next)
    {alternative : Schema} (halternative : alternative.Placed owner σ.next)
    {result : Schema × Store} (hresult : s.addAlternative alternative σ = some result) :
    Built owner σ result := by
  have hplaced := hs.node
  unfold addAlternative at hresult
  split at hresult
  · rename_i hnode
    rw [hnode] at hplaced
    obtain rfl := Option.some.inj hresult
    refine create_built (.refl h) _ (fun _ => rfl) (fun _ => rfl) fun k c hc => ?_
    rcases List.mem_append.mp hc with hc | hc
    · exact hplaced.child hc
    · rw [List.mem_singleton.mp hc]
      exact halternative
  · cases hresult

theorem asOptional_built (h : σ.Coherent owner) (hs : s.Placed owner σ.next) :
    Built owner σ (s.asOptional σ) :=
  create_copy_built h hs (fun c k => optional k c) (fun _ _ => rfl) (fun _ _ => rfl)
    (by simp [children])

theorem asNullable_built (h : σ.Coherent owner) (hs : s.Placed owner σ.next) :
    Built owner σ (s.asNullable σ) :=
  create_copy_built h hs (fun c k => nullable k c) (fun _ _ => rfl) (fun _ _ => rfl)
    (by simp [children])

theorem refine_built (h : σ.Coherent owner) (hs : s.Placed owner σ.next) (accepts : Output → Bool)
    (message : String) : Built owner σ (s.refine accepts message σ) :=
  create_copy_built h hs (fun c k => refinement k c accepts message) (fun _ _ => rfl)
    (fun _ _ => rfl) (by simp [children])

theorem pipeTo_built (h : σ.Coherent owner) (hs : s.Placed owner σ.next) {next : Schema}
    (hnext : next.Placed owner σ.next) : Built owner σ (s.pipeTo next σ) :=
  create_copy_built h hs (fun c k => pipe k c next) (fun _ _ => rfl) (fun _ _ => rfl) (by
    intro c k d hd
    rcases (List.mem_cons.mp hd).imp_right List.mem_singleton.mp with rfl | rfl
    · exact .inl rfl
    · exact .inr hnext)

end Schema

end JsonValidation
