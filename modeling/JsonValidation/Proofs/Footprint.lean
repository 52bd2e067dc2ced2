import JsonValidation.Proofs.Sessions

/-!
# What gets compiled

Compiling a node compiles the node and its descendants and nothing else, children first. No other
operation of a session compiles anything that exists, and nothing that is compiled is ever forgotten.

* `Session.Adds`: which nodes a change of the store leaves compiled.
* `Session.populated_run`: a compiled node stays compiled.
* `Session.Footprint`, `compile_footprint`: the footprints of all operations at a state of a run.
-/

namespace JsonValidation.Session

open Store

/-- A change of the store leaves compiled what was compiled before and the nodes of a list. This is
    said of all slots that were in use, and of the nodes of the session. -/
structure Adds (s : Session) (added : List Schema) (σ : Store) : Prop where
  slots : ∀ k < s.store.next, (σ.populated k ↔ s.store.populated k ∨ ∃ n ∈ added, n.slot = k)
  nodes : ∀ n ∈ s.nodes, (n.isCompiled σ ↔ n.isCompiled s.store ∨ n ∈ added)

variable {owner : Ownership} {s : Session}

/-- In a sound session nodes are told apart by their slots. -/
theorem Sound.adds (h : s.Sound owner) {added : List Schema} {σ : Store}
    (hslots : ∀ k < s.store.next, (σ.populated k ↔ s.store.populated k ∨ ∃ n ∈ added, n.slot = k))
    (hadded : ∀ n ∈ added, n ∈ s.nodes) : s.Adds added σ := by
  refine ⟨hslots, fun n hn => ?_⟩
  have hmem : (∃ m ∈ added, m.slot = n.slot) ↔ n ∈ added := by
    constructor
    · rintro ⟨m, hm, hslot⟩
      rw [← h.owned hn, ← hslot, h.owned (hadded m hm)]
      exact hm
    · exact fun hn => ⟨n, hn, rfl⟩
  rw [← hmem]
  exact hslots n.slot (h.placed_of_mem_nodes hn).slot_lt_bound

/-- New nodes in new slots leave the flags of the nodes that exist as they are. -/
theorem Sound.adds_nothing (h : s.Sound owner) {owner' : Ownership} {σ : Store}
    (hσ : Extends owner s.store owner' σ) : s.Adds [] σ :=
  h.adds (hσ.advances h.coherent).populated_iff (by simp)

theorem mem_nodes_of_mem_roots {root n : Schema} (hroot : root ∈ s.roots) (hn : n ∈ root.nodes) :
    n ∈ s.nodes := List.mem_flatMap.mpr ⟨root, hroot, hn⟩

theorem mem_nodes_trans {m n : Schema} (hn : n ∈ s.nodes) (hm : m ∈ n.nodes) : m ∈ s.nodes := by
  obtain ⟨root, hroot, hn⟩ := List.mem_flatMap.mp hn
  exact mem_nodes_of_mem_roots hroot (Schema.mem_nodes_trans hm hn)

/-- A step compiles nodes of the session. -/
theorem mem_nodes_of_mem_compiledBy {st : Step} {n : Schema} (hn : n ∈ s.compiledBy st) :
    n ∈ s.nodes := by
  have hnamed : ∀ {name : String} {f : Schema → List Schema}, (∀ root, ∀ m ∈ f root, m ∈ root.nodes) →
      n ∈ ((Shape.lookup? s.schemas name).map f).getD [] → n ∈ s.nodes := by
    intro name f hf hn
    cases hname : Shape.lookup? s.schemas name with
    | none => rw [hname] at hn; cases hn
    | some root =>
      rw [hname] at hn
      exact mem_nodes_of_mem_roots (mem_roots_of_lookup? hname) (hf root n hn)
  cases st with
  | compile name | validate name | batch name => exact hnamed (fun _ _ hm => hm) hn
  | assemble name => exact hnamed (fun _ _ hm => Schema.mem_nodes_of_mem_descendants hm) hn
  | warm order =>
    obtain ⟨root, hroot, hn⟩ := List.mem_flatMap.mp hn
    exact mem_nodes_of_mem_roots (List.mem_append_right _ hroot) hn
  | validateRegistered name value =>
    rw [compiledBy] at hn
    cases hname : s.registry.get? name with
    | none => rw [hname] at hn; cases hn
    | some root =>
      rw [hname] at hn
      exact mem_nodes_of_mem_roots (mem_roots_of_get? hname) hn
  | _ => cases hn

/-- A compiled node stays compiled. -/
theorem populated_run (dialect : PatternDialect) (steps : List Step) :
    ∀ {owner : Ownership} {s : Session}, s.Sound owner → ∀ k < s.store.next, s.store.populated k →
      (s.run dialect steps).1.store.populated k := by
  induction steps with
  | nil => exact fun _ k _ hk => hk
  | cons first rest ih =>
    intro owner s h k hlt hk
    obtain ⟨_, _, hadvances, h'⟩ := h.step dialect first
    exact ih h' k (Nat.lt_of_lt_of_le hlt hadvances.next_le)
      ((hadvances.populated_iff k hlt).mpr (.inl hk))

/-- What the operations on the nodes of a session leave compiled. -/
structure Footprint (dialect : PatternDialect) (s : Session) : Prop where
  /-- Compiling a node adds the node and its descendants, and so does every validation by it,
      whatever the input and the outcome. -/
  compile : ∀ n ∈ s.nodes, s.Adds n.nodes (n.compile s.store).2
  validate : ∀ n ∈ s.nodes, ∀ input path, s.Adds n.nodes (n.validate input path s.store).2
  validateBatch : ∀ n ∈ s.nodes, ∀ inputs, s.Adds n.nodes (n.validateBatch inputs s.store).2
  /-- Assembling a node adds its descendants, and the node is none of them. -/
  assemble : ∀ n ∈ s.nodes, s.Adds n.descendants (n.assemble s.store).2
  not_below : ∀ n ∈ s.nodes, ∀ d ∈ n.descendants, d.slot ≠ n.slot
  /-- Every step of a session adds what it compiles, which is nothing for most of them. -/
  step : ∀ st, s.Adds (s.compiledBy st) (s.step dialect st).1.store
  /-- Building adds nothing. What is built is new and not compiled, unless the blueprint only refers
      to a schema. -/
  build : ∀ (b : Blueprint) (n : Schema) (σ : Store),
    b.build (s.surroundings dialect) s.store = .ok (n, σ) → s.Adds [] σ ∧
      (b.isReference = false → n.isCompiled σ = false ∧ ∀ m ∈ s.nodes, m.slot ≠ n.slot)
  /-- Copying adds nothing, and the nodes of the copy are compiled where those of the original are. -/
  copy : ∀ n ∈ s.nodes, s.Adds [] (n.copy s.store).2 ∧
    (n.copy s.store).2.flags (n.copy s.store).1 = s.store.flags n
  /-- What is compiled stays compiled. -/
  kept : ∀ steps, ∀ n ∈ s.nodes, n.isCompiled s.store → n.isCompiled (s.run dialect steps).1.store
  /-- A compiled node has compiled descendants only. -/
  closed : ∀ n ∈ s.nodes, n.isCompiled s.store → ∀ d ∈ n.descendants, d.isCompiled s.store
  /-- So it is at every moment of a step, and at the end of the step nothing else is compiled than
      the step has filled. -/
  moments : ∀ st, ∃ events, (s.step dialect st).1.store.history = events ++ s.store.history ∧
    (∀ n ∈ s.nodes,
      (n.isCompiled (s.step dialect st).1.store ↔ s.store.PopulatedAfter events n.slot)) ∧
    ∀ early, early <:+ events → ∀ n ∈ s.nodes, s.store.PopulatedAfter early n.slot →
      ∀ d ∈ n.descendants, s.store.PopulatedAfter early d.slot

/-- **Footprints.** They are exact at every state that can be reached. -/
theorem compile_footprint (dialect : PatternDialect) (steps : List Step) :
    Footprint dialect (reached dialect steps) := by
  obtain ⟨owner, h⟩ := reached_sound dialect steps
  generalize reached dialect steps = s at h
  have hcompile : ∀ n ∈ s.nodes, s.Adds n.nodes (n.compile s.store).2 := fun n hn => by
    obtain ⟨-, _, hσ⟩ := Schema.compile_compiled h.coherent (h.placed_of_mem_nodes hn)
    exact h.adds (fun k _ => hσ.populated_iff k) fun m hm => mem_nodes_trans hn hm
  refine
    { compile := hcompile
      validate := fun n hn _ _ => hcompile n hn
      validateBatch := fun n hn _ => hcompile n hn
      assemble := fun n hn => ?_
      not_below := fun n hn d hd => Nat.ne_of_lt ((h.placed_of_mem_nodes hn).slot_lt hd)
      step := fun st => ?_
      build := fun b n σ hbuild => ?_
      copy := fun n hn => ?_
      kept := fun steps n hn hp => ?_
      closed := fun n hn hp d hd => ?_
      moments := fun st => ?_ }
  · obtain ⟨-, _, hσ⟩ := Schema.assembles owner n _ h.coherent (h.placed_of_mem_nodes hn)
    exact h.adds (fun k _ => hσ.populated_iff k) fun m hm =>
      mem_nodes_trans hn (Schema.mem_nodes_of_mem_descendants hm)
  · obtain ⟨_, _, hadvances, -⟩ := h.step dialect st
    exact h.adds hadvances.populated_iff fun n hn => mem_nodes_of_mem_compiledBy hn
  · obtain ⟨⟨_, hextends, -⟩, hfresh⟩ :=
      b.makes _ owner _ _ h.coherent (h.surroundings dialect) hbuild
    refine ⟨h.adds_nothing hextends, fun hb => ⟨(hfresh hb).2, fun m hm => ?_⟩⟩
    exact Nat.ne_of_lt
      (Nat.lt_of_lt_of_le (h.placed_of_mem_nodes hm).slot_lt_bound (hfresh hb).1)
  · obtain ⟨_, hextends, -, -, hflags⟩ :=
      n.copy_copied owner _ h.coherent (h.placed_of_mem_nodes hn)
    exact ⟨h.adds_nothing hextends, hflags⟩
  · exact populated_run dialect steps h n.slot (h.placed_of_mem_nodes hn).slot_lt_bound hp
  · exact h.coherent.nodes_populated (h.placed_of_mem_nodes hn) hp d
      (Schema.mem_nodes_of_mem_descendants hd)
  · obtain ⟨_, events, hadvances, -⟩ := h.step dialect st
    refine ⟨events, hadvances.history_eq, fun n hn => ?_, fun early hearly n hn hp d hd => ?_⟩
    · exact hadvances.populated_after n.slot (h.placed_of_mem_nodes hn).slot_lt_bound
    · exact hadvances.closed_after early hearly n.slot hp d (by rwa [h.owned hn])

theorem compile_footprint_words : ∃ n ∈ (reached noPatterns wordsRun).nodes,
    n.isCompiled (reached noPatterns wordsRun).store = false ∧
    Adds (reached noPatterns wordsRun) n.nodes (n.compile (reached noPatterns wordsRun).store).2 := by
  have hn := List.mem_of_getElem? (l := (reached noPatterns wordsRun).nodes) (i := 3) rfl
  exact ⟨_, hn, rfl, (compile_footprint noPatterns wordsRun).compile _ hn⟩

end JsonValidation.Session
