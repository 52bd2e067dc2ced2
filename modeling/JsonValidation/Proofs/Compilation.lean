import JsonValidation.Proofs.Agreement
import JsonValidation.Proofs.Ownership
import JsonValidation.Schema.Compile

/-!
# Compiling placed schemas

In a coherent store, assembling a placed node gives its interpreter and fills the slots of its
descendants, and compiling it fills the slot of the node as well. Every slot is filled after those
below it, so the store is closed at each moment in between, not only at the end.

* `Store.PopulatedAfter`: the slots that hold a routine when some events have happened.
* `Store.Compiled`: a stretch of a compilation, with the nodes that it filled and its events.
* `Compiled.trans`: one stretch after another.
* `Schema.assembles`, `Schema.compile_compiled`: what `assemble` and `compile` give and fill.
-/

namespace JsonValidation

namespace Store

/-- The slots that hold a routine at the moment when some events have happened. -/
def PopulatedAfter (σ : Store) (events : List StoreEvent) (k : Slot) : Prop :=
  σ.populated k ∨ .filled k ∈ events

/-- A stretch of a compilation: it fills the slots of the targets and no others, its events are the
    latest of the history, and whenever a slot holds a routine, at any moment of the stretch, the slots
    below it do. -/
structure Compiled (owner : Ownership) (σ : Store) (targets : List Schema)
    (events : List StoreEvent) (σ' : Store) : Prop where
  next_eq : σ'.next = σ.next
  history_eq : σ'.history = events ++ σ.history
  coherent : σ'.Coherent owner
  populated_iff : ∀ k, σ'.populated k ↔ σ.populated k ∨ ∃ n ∈ targets, n.slot = k
  populated_after : ∀ k, σ'.populated k ↔ σ.PopulatedAfter events k
  closed_after : ∀ early, early <:+ events → ∀ k, σ.PopulatedAfter early k →
    ∀ d ∈ (owner k).descendants, σ.PopulatedAfter early d.slot

variable {owner : Ownership} {σ σ' σ'' : Store} {s : Schema}

theorem populatedAfter_nil {k : Slot} : σ.PopulatedAfter [] k ↔ σ.populated k := by
  simp [PopulatedAfter]

theorem populatedAfter_append {late early : List StoreEvent} {k : Slot} :
    σ.PopulatedAfter (late ++ early) k ↔ σ.PopulatedAfter early k ∨ .filled k ∈ late := by
  rw [PopulatedAfter, PopulatedAfter, List.mem_append, or_assoc, or_comm (a := .filled k ∈ early)]

namespace Compiled

theorem refl (h : σ.Coherent owner) : Compiled owner σ [] [] σ where
  next_eq := rfl
  history_eq := rfl
  coherent := h
  populated_iff k := by simp
  populated_after k := populatedAfter_nil.symm
  closed_after early hearly k hk d hd := by
    obtain rfl := List.suffix_nil.mp hearly
    rw [populatedAfter_nil] at hk ⊢
    exact h.closed k hk d hd

/-- One stretch after another. -/
theorem trans {xs ys : List Schema} {early late : List StoreEvent}
    (h₁ : Compiled owner σ xs early σ') (h₂ : Compiled owner σ' ys late σ'') :
    Compiled owner σ (xs ++ ys) (late ++ early) σ'' where
  next_eq := by rw [h₂.next_eq, h₁.next_eq]
  history_eq := by rw [h₂.history_eq, h₁.history_eq, List.append_assoc]
  coherent := h₂.coherent
  populated_iff k := by
    rw [h₂.populated_iff, h₁.populated_iff]
    simp only [List.mem_append, or_and_right, exists_or, or_assoc]
  populated_after k := by
    rw [h₂.populated_after, populatedAfter_append, PopulatedAfter, h₁.populated_after]
  closed_after moment hmoment := by
    rcases List.suffix_or_suffix_of_suffix hmoment (List.suffix_append late early) with hm | ⟨m, rfl⟩
    · exact h₁.closed_after moment hm
    · -- the moment lies in the second stretch, which starts where the first one has ended
      have hm : m <:+ late := by
        obtain ⟨rest, hrest⟩ := hmoment
        exact ⟨rest, List.append_cancel_right (by rw [← hrest, List.append_assoc])⟩
      have hshift : ∀ k, σ.PopulatedAfter (m ++ early) k ↔ σ'.PopulatedAfter m k := by
        intro k
        rw [populatedAfter_append, ← h₁.populated_after, PopulatedAfter]
      intro k hk d hd
      rw [hshift] at hk ⊢
      exact h₂.closed_after m hm k hk d hd

/-- The same stretch with its targets listed in another way. -/
theorem congr_targets {xs ys : List Schema} {events : List StoreEvent}
    (h : Compiled owner σ xs events σ') (hmem : ∀ n, n ∈ xs ↔ n ∈ ys) :
    Compiled owner σ ys events σ' :=
  { h with populated_iff := fun k => by simp only [h.populated_iff, hmem] }

/-- A stretch of one event that leaves a coherent store. -/
theorem single {xs : List Schema} {event : StoreEvent} (h : σ.Coherent owner)
    (hnext : σ'.next = σ.next) (hhistory : σ'.history = event :: σ.history)
    (hcoherent : σ'.Coherent owner)
    (hxs : ∀ k, σ'.populated k ↔ σ.populated k ∨ ∃ n ∈ xs, n.slot = k)
    (hevent : ∀ k, σ'.populated k ↔ σ.PopulatedAfter [event] k) :
    Compiled owner σ xs [event] σ' where
  next_eq := hnext
  history_eq := hhistory
  coherent := hcoherent
  populated_iff := hxs
  populated_after := hevent
  closed_after early hearly k hk d hd := by
    rcases List.suffix_cons_iff.mp hearly with rfl | hearly
    · rw [← hevent] at hk ⊢
      exact hcoherent.closed k hk d hd
    · exact (refl h).closed_after early hearly k hk d hd

/-- Noting that a build began. -/
theorem began (h : σ.Coherent owner) (slot : Slot) :
    Compiled owner σ [] [.began slot] (σ.record (.began slot)) := by
  refine single h rfl rfl ⟨h.placed, h.agrees, h.closed⟩ (fun k => ?_) (fun k => ?_)
  · simp
  · simp [PopulatedAfter]

/-- Filling the slot of a node whose descendants are compiled with its interpreter. -/
theorem filled (h : σ.Coherent owner) (hs : s.Placed owner σ.next)
    (hdesc : ∀ d ∈ s.descendants, σ.populated d.slot) :
    Compiled owner σ [s.node] [.filled s.slot] (σ.fill s.slot s.interpret) := by
  have hfill : ∀ k, (σ.fill s.slot s.interpret).populated k ↔ σ.populated k ∨ s.slot = k := by
    intro k
    rw [populated_fill, Bool.or_eq_true, decide_eq_true_eq, or_comm, @eq_comm _ k]
  refine single h rfl rfl ⟨fun k hk => ?_, fun k r hr => ?_, fun k hk d hd => ?_⟩ (fun k => ?_)
    (fun k => ?_)
  · rcases (hfill k).mp hk with hk | rfl
    · exact h.placed k hk
    · rw [hs.owner_slot]
      exact ⟨s.slot_node, hs.node⟩
  · rw [routine?_fill] at hr
    split at hr
    · rename_i hk
      subst hk
      rw [hs.owner_slot, Schema.interpret_node]
      exact (Option.some.inj hr).symm
    · exact h.agrees k r hr
  · rw [hfill]
    rcases (hfill k).mp hk with hk | rfl
    · exact .inl (h.closed k hk d hd)
    · rw [hs.owner_slot, Schema.descendants_node] at hd
      exact .inl (hdesc d hd)
  · rw [hfill]
    simp
  · rw [hfill, PopulatedAfter, List.mem_singleton, StoreEvent.filled.injEq, @eq_comm _ k]

end Compiled

/-- A compiled schema leaves nothing to compile. -/
theorem Coherent.compiled_already (h : σ.Coherent owner) (hs : s.Placed owner σ.next)
    (hp : σ.populated s.slot) : Compiled owner σ s.nodes [] σ := by
  have hall := h.nodes_populated hs hp
  refine { Compiled.refl h with populated_iff := fun k => ⟨.inl, ?_⟩ }
  rintro (hk | ⟨n, hn, rfl⟩)
  · exact hk
  · exact hall n hn

/-- Asking the slot of a placed node, given how its routine is built. -/
theorem getOrBuild_compiled {build : Store → Routine × Store} (h : σ.Coherent owner)
    (hs : s.Placed owner σ.next)
    (hbuild : ∀ τ, τ.Coherent owner → τ.next = σ.next → (build τ).1 = s.interpret ∧
      ∃ events, Compiled owner τ s.descendants events (build τ).2) :
    (σ.getOrBuild s.slot build).1 = s.interpret ∧
      ∃ events, Compiled owner σ s.nodes events (σ.getOrBuild s.slot build).2 := by
  unfold getOrBuild
  cases hr : σ.routine? s.slot with
  | some routine =>
    exact ⟨h.routine_eq hs hr, [], h.compiled_already hs (populated_of_routine? hr)⟩
  | none =>
    have hbegan := Compiled.began h s.slot
    obtain ⟨hroutine, events, hrest⟩ := hbuild _ hbegan.coherent hbegan.next_eq
    have hnext : (build (σ.record (.began s.slot))).2.next = σ.next := by
      rw [hrest.next_eq, hbegan.next_eq]
    have hfilled := Compiled.filled (s := s) hrest.coherent (by rwa [hnext])
      (fun d hd => (hrest.populated_iff d.slot).mpr (.inr ⟨d, hd, rfl⟩))
    dsimp only
    rw [hroutine]
    refine ⟨rfl, _, ((hbegan.trans hrest).trans hfilled).congr_targets fun n => ?_⟩
    rw [Schema.mem_nodes]
    simp [or_comm]

end Store

namespace Schema

open Store

variable {owner : Ownership} {σ : Store}

/-- Assembling the schema, wherever it is placed in a coherent store, gives its interpreter and fills
    the slots of its descendants. -/
def Assembles (owner : Ownership) (s : Schema) : Prop :=
  ∀ σ : Store, σ.Coherent owner → s.Placed owner σ.next →
    (s.assemble σ).1 = s.interpret ∧
      ∃ events, Compiled owner σ s.descendants events (s.assemble σ).2

/-- The routine of a child, which is kept in the slot of the child. -/
theorem Assembles.getOrBuild {c : Schema} (hc : c.Assembles owner) (h : σ.Coherent owner)
    (hplaced : c.Placed owner σ.next) :
    (σ.getOrBuild c.slot c.assemble).1 = c.interpret ∧
      ∃ events, Compiled owner σ c.nodes events (σ.getOrBuild c.slot c.assemble).2 :=
  getOrBuild_compiled h hplaced fun τ hτ hnext => hc τ hτ (by rwa [hnext])

/-- A node with one child, given how its routine is made from that of the child. -/
theorem Assembles.of_child {s c : Schema} (hc : c.Assembles owner) {f : Routine → Routine}
    (hchildren : s.children = [c])
    (hassemble : ∀ σ, s.assemble σ =
      (f (σ.getOrBuild c.slot c.assemble).1, (σ.getOrBuild c.slot c.assemble).2))
    (hf : f c.interpret = s.interpret) : s.Assembles owner := by
  intro σ h hs
  obtain ⟨hroutine, events, hcompiled⟩ := hc.getOrBuild h (hs.child (by simp [hchildren]))
  have hdesc : s.descendants = c.nodes := by simp [descendants, hchildren]
  rw [hassemble, hroutine, hf, hdesc]
  exact ⟨rfl, events, hcompiled⟩

theorem compileFields_compiled (fields : List (String × Schema))
    (ih : ∀ f ∈ fields, f.2.Assembles owner) :
    ∀ σ : Store, σ.Coherent owner → (∀ f ∈ fields, f.2.Placed owner σ.next) →
      (compileFields fields σ).1 = fields.map (fun f => (f.1, f.2.interpret)) ∧
        ∃ events, Compiled owner σ ((fields.map Prod.snd).flatMap nodes) events
          (compileFields fields σ).2 := by
  induction fields with
  | nil => exact fun σ h _ => ⟨rfl, [], Compiled.refl h⟩
  | cons field rest ihRest =>
    intro σ h hplaced
    obtain ⟨hfield, hrest⟩ := List.forall_mem_cons.mp hplaced
    obtain ⟨hroutine, early, hfirst⟩ := (ih field List.mem_cons_self).getOrBuild h hfield
    rw [← hfirst.next_eq] at hrest
    obtain ⟨hroutines, late, hlater⟩ :=
      ihRest (fun f hf => ih f (List.mem_cons_of_mem _ hf)) _ hfirst.coherent hrest
    simp only [compileFields, hroutine, hroutines]
    exact ⟨rfl, _, hfirst.trans hlater⟩

theorem compileAlternatives_compiled (alternatives : List Schema)
    (ih : ∀ a ∈ alternatives, a.Assembles owner) :
    ∀ σ : Store, σ.Coherent owner → (∀ a ∈ alternatives, a.Placed owner σ.next) →
      (compileAlternatives alternatives σ).1 = alternatives.map interpret ∧
        ∃ events, Compiled owner σ (alternatives.flatMap nodes) events
          (compileAlternatives alternatives σ).2 := by
  induction alternatives with
  | nil => exact fun σ h _ => ⟨rfl, [], Compiled.refl h⟩
  | cons schema rest ihRest =>
    intro σ h hplaced
    obtain ⟨hschema, hrest⟩ := List.forall_mem_cons.mp hplaced
    obtain ⟨hroutine, early, hfirst⟩ := (ih schema List.mem_cons_self).getOrBuild h hschema
    rw [← hfirst.next_eq] at hrest
    obtain ⟨hroutines, late, hlater⟩ :=
      ihRest (fun a ha => ih a (List.mem_cons_of_mem _ ha)) _ hfirst.coherent hrest
    simp only [compileAlternatives, hroutine, hroutines]
    exact ⟨rfl, _, hfirst.trans hlater⟩

/-- **Assembling.** Every placed schema assembles to its interpreter. -/
theorem assembles (owner : Ownership) (s : Schema) : s.Assembles owner := by
  induction s with
  | string slot settings =>
    exact fun σ h _ => ⟨settings.routine_eq_interpret, [], Compiled.refl h⟩
  | number slot settings =>
    exact fun σ h _ => ⟨settings.routine_eq_interpret, [], Compiled.refl h⟩
  | boolean slot settings =>
    exact fun σ h _ => ⟨settings.routine_eq_interpret, [], Compiled.refl h⟩
  | literal slot expected => exact fun σ h _ => ⟨rfl, [], Compiled.refl h⟩
  | array slot element settings ih =>
    exact ih.of_child rfl (fun _ => rfl) (routine_array slot element settings)
  | object slot fields typeMessage ih =>
    intro σ h hs
    obtain ⟨hroutines, events, hcompiled⟩ := compileFields_compiled fields ih σ h
      fun f hf => hs.child (List.mem_map_of_mem hf)
    refine ⟨?_, events, hcompiled⟩
    rw [← routine_object, ← hroutines]
    rfl
  | union slot alternatives ih =>
    intro σ h hs
    obtain ⟨hroutines, events, hcompiled⟩ := compileAlternatives_compiled alternatives ih σ h
      fun a ha => hs.child ha
    refine ⟨?_, events, hcompiled⟩
    rw [← routine_union, ← hroutines]
    rfl
  | optional slot inner ih => exact ih.of_child rfl (fun _ => rfl) (routine_optional slot inner)
  | nullable slot inner ih => exact ih.of_child rfl (fun _ => rfl) (routine_nullable slot inner)
  | refinement slot inner accepts message ih =>
    exact ih.of_child (f := fun routine => routine.refinement accepts message) rfl (fun _ => rfl)
      (routine_refinement slot inner accepts message)
  | pipe slot first second ihFirst ihSecond =>
    intro σ h hs
    obtain ⟨hfirst, early, hcompiled⟩ := ihFirst.getOrBuild h (hs.child (by simp [children]))
    obtain ⟨hsecond, late, hcompiled'⟩ := ihSecond.getOrBuild hcompiled.coherent (by
      rw [hcompiled.next_eq]
      exact hs.child (by simp [children]))
    refine ⟨?_, _, (hcompiled.trans hcompiled').congr_targets (by simp [descendants, children])⟩
    rw [← routine_pipe, ← hfirst, ← hsecond]
    rfl
  | shared access inner ih =>
    exact fun σ h hs => ih σ h (hs.of_nodes_subset fun _ hn => hn)

/-- **Compiling.** The compiled routine of a placed schema is its interpreter, and compiling fills the
    slots of the node and of its descendants. -/
theorem compile_compiled {s : Schema} (h : σ.Coherent owner) (hs : s.Placed owner σ.next) :
    (s.compile σ).1 = s.interpret ∧
      ∃ events, Compiled owner σ s.nodes events (s.compile σ).2 :=
  (assembles owner s).getOrBuild h hs

end Schema

end JsonValidation
