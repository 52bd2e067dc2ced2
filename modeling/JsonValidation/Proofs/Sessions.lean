import JsonValidation.Proofs.Blueprints
import JsonValidation.Proofs.Compilation
import JsonValidation.Session.Basic

/-!
# Runs of sessions

A session is sound when its store is coherent and all schemas that it knows are placed. Every step
keeps a session sound: it gives owners to new slots only, and it fills the slots of the nodes that it
compiles and no others.

* `Session.Sound`: the invariant.
* `Session.compiledBy`: the nodes that a step leaves compiled.
* `Sound.step`: what one step does to a sound session.
* `Sound.run`, `Session.reached_sound`: what holds at all moments of a run.
-/

namespace JsonValidation

namespace Store

/-- What a step of a session does to the store: it hands out new slots or compiles the targets. What
    is said of single slots is said of those that were in use before. -/
structure Advances (owner : Ownership) (σ : Store) (targets : List Schema)
    (events : List StoreEvent) (owner' : Ownership) (σ' : Store) : Prop where
  next_le : σ.next ≤ σ'.next
  owner_eq : ∀ k < σ.next, owner' k = owner k
  history_eq : σ'.history = events ++ σ.history
  populated_iff : ∀ k < σ.next, (σ'.populated k ↔ σ.populated k ∨ ∃ n ∈ targets, n.slot = k)
  populated_after : ∀ k < σ.next, (σ'.populated k ↔ σ.PopulatedAfter events k)
  closed_after : ∀ early, early <:+ events → ∀ k, σ.PopulatedAfter early k →
    ∀ d ∈ (owner k).descendants, σ.PopulatedAfter early d.slot

variable {owner owner' : Ownership} {σ σ' : Store}

theorem Extends.advances (h : Extends owner σ owner' σ') (hσ : σ.Coherent owner) :
    Advances owner σ [] [] owner' σ' where
  next_le := h.next_le
  owner_eq := h.owner_eq
  history_eq := h.history_eq
  populated_iff k hk := by simp [h.populated_eq hk]
  populated_after k hk := by rw [h.populated_eq hk, populatedAfter_nil]
  closed_after := (Compiled.refl hσ).closed_after

theorem Compiled.advances {targets : List Schema} {events : List StoreEvent}
    (h : Compiled owner σ targets events σ') : Advances owner σ targets events owner σ' where
  next_le := Nat.le_of_eq h.next_eq.symm
  owner_eq _ _ := rfl
  history_eq := h.history_eq
  populated_iff k _ := h.populated_iff k
  populated_after k _ := h.populated_after k
  closed_after := h.closed_after

/-- Compiling schemas one after the other compiles all their nodes. -/
theorem warmAll_compiled (schemas : List Schema) :
    ∀ σ : Store, σ.Coherent owner → (∀ s ∈ schemas, s.Placed owner σ.next) →
      ∃ events, Compiled owner σ (schemas.flatMap Schema.nodes) events (warmAll schemas σ).2 := by
  induction schemas with
  | nil => exact fun σ h _ => ⟨[], Compiled.refl h⟩
  | cons schema rest ih =>
    intro σ h hplaced
    obtain ⟨hschema, hrest⟩ := List.forall_mem_cons.mp hplaced
    rw [warmAll]
    split
    · rename_i hp
      obtain ⟨events, hlater⟩ := ih σ h hrest
      exact ⟨_, (h.compiled_already hschema hp).trans hlater⟩
    · obtain ⟨-, early, hfirst⟩ := Schema.compile_compiled h hschema
      rw [← hfirst.next_eq] at hrest
      obtain ⟨late, hlater⟩ := ih _ hfirst.coherent hrest
      exact ⟨_, hfirst.trans hlater⟩

end Store

namespace Registry

theorem mem_entries_of_get? {r : Registry} {name : String} {schema : Schema}
    (h : r.get? name = some schema) : (name, schema) ∈ r.entries := by
  obtain ⟨early, late, heq, -⟩ := List.lookup_eq_some_iff.mp h
  simp [heq]

theorem mem_of_get? {r : Registry} {name : String} {schema : Schema} (h : r.get? name = some schema) :
    schema ∈ r.entries.map Prod.snd := List.mem_map_of_mem (mem_entries_of_get? h)

/-- Warming compiles the entries, in whatever order they are enumerated. -/
theorem warm_compiled {owner : Ownership} {σ : Store} (r : Registry) (order : List String)
    (h : σ.Coherent owner) (hr : ∀ s ∈ r.entries.map Prod.snd, s.Placed owner σ.next) :
    ∃ events, Store.Compiled owner σ ((r.entries.map Prod.snd).flatMap Schema.nodes) events
      (r.warm order σ).2 := by
  have hnamed : ∀ s ∈ order.filterMap r.get?, s ∈ r.entries.map Prod.snd := by
    intro s hs
    obtain ⟨name, -, hname⟩ := List.mem_filterMap.mp hs
    exact mem_of_get? hname
  obtain ⟨events, hcompiled⟩ :=
    Store.warmAll_compiled (order.filterMap r.get? ++ r.entries.map Prod.snd) σ h fun s hs =>
      hr s ((List.mem_append.mp hs).elim (hnamed s) id)
  refine ⟨events, hcompiled.congr_targets fun n => ?_⟩
  simp only [List.mem_flatMap, List.mem_append]
  constructor
  · rintro ⟨s, hs | hs, hn⟩
    · exact ⟨s, hnamed s hs, hn⟩
    · exact ⟨s, hs, hn⟩
  · rintro ⟨s, hs, hn⟩
    exact ⟨s, .inr hs, hn⟩

end Registry

namespace Session

open Store

/-- The schemas that a session knows: those with names and those in the registry. -/
def roots (s : Session) : List Schema :=
  s.schemas.map Prod.snd ++ s.registry.entries.map Prod.snd

/-- The nodes of a session. -/
def nodes (s : Session) : List Schema := s.roots.flatMap Schema.nodes

/-- The nodes of a session are placed in its store, which is coherent. -/
structure Sound (owner : Ownership) (s : Session) : Prop where
  coherent : s.store.Coherent owner
  placed : ∀ root ∈ s.roots, root.Placed owner s.store.next

/-- The nodes that a step leaves compiled, whatever it is about and whether it succeeds or fails. -/
def compiledBy (s : Session) : Step → List Schema
  | .compile name => ((Shape.lookup? s.schemas name).map Schema.nodes).getD []
  | .validate name _ _ => ((Shape.lookup? s.schemas name).map Schema.nodes).getD []
  | .batch name _ => ((Shape.lookup? s.schemas name).map Schema.nodes).getD []
  | .assemble name _ _ => ((Shape.lookup? s.schemas name).map Schema.descendants).getD []
  | .warm _ => (s.registry.entries.map Prod.snd).flatMap Schema.nodes
  | .validateRegistered name _ => ((s.registry.get? name).map Schema.nodes).getD []
  | _ => []

/-! ## Places -/

theorem nodes_of_child? {s c : Schema} {direction : String} (h : child? s direction = some c) :
    ∀ n ∈ c.nodes, n ∈ s.nodes := by
  fun_induction child? s direction with
  | case7 inner direction ih => exact ih h
  | case8 => cases h
  | _ =>
    obtain rfl := Option.some.inj h
    intro n hn
    simp [Schema.nodes, hn]

theorem nodes_of_field? {s c : Schema} {name : String} (h : field? s name = some (some c)) :
    ∀ n ∈ c.nodes, n ∈ s.nodes := by
  fun_induction field? s name with
  | case1 slot fields typeMessage name =>
    intro n hn
    have hmem := List.mem_map_of_mem (f := Prod.snd) (Shape.mem_of_lookup? (Option.some.inj h))
    exact Schema.mem_nodes_of_mem_descendants (Schema.mem_descendants.mpr ⟨c, hmem, hn⟩)
  | case2 inner name ih => exact ih h
  | case3 => cases h

/-- Directions lead to nodes of the schema that they start from. -/
theorem nodes_of_locate {s c : Schema} {directions : List String}
    (h : locate s directions = some (.node c) ∨ locate s directions = some (.field (some c))) :
    ∀ n ∈ c.nodes, n ∈ s.nodes := by
  fun_induction locate s directions with
  | case1 s =>
    rcases h with h | h
    · obtain rfl := Place.node.inj (Option.some.inj h)
      exact fun _ hn => hn
    · cases h
  | case2 s direction rest child hchild ih =>
    exact fun n hn => nodes_of_child? hchild n (ih h n hn)
  | case3 s direction rest hchild hrest =>
    have h := h.resolve_left (by cases field? s direction <;> simp)
    obtain ⟨field, hfield, hsome⟩ := Option.map_eq_some_iff.mp h
    obtain rfl := Place.field.inj hsome
    exact nodes_of_field? hfield
  | case4 => simp at h

/-! ## Steps -/

variable {owner owner' : Ownership} {s : Session}

theorem mem_roots_of_lookup? {name : String} {schema : Schema}
    (h : Shape.lookup? s.schemas name = some schema) : schema ∈ s.roots :=
  List.mem_append_left _ (List.mem_map_of_mem (f := Prod.snd) (Shape.mem_of_lookup? h))

theorem mem_roots_of_get? {name : String} {schema : Schema}
    (h : s.registry.get? name = some schema) : schema ∈ s.roots :=
  List.mem_append_right _ (Registry.mem_of_get? h)

theorem Sound.placed_of_mem_nodes (h : s.Sound owner) {n : Schema} (hn : n ∈ s.nodes) :
    n.Placed owner s.store.next := by
  obtain ⟨root, hroot, hn⟩ := List.mem_flatMap.mp hn
  exact (h.placed root hroot).of_mem_nodes hn

theorem Sound.owned (h : s.Sound owner) {n : Schema} (hn : n ∈ s.nodes) : owner n.slot = n := by
  obtain ⟨root, hroot, hn⟩ := List.mem_flatMap.mp hn
  exact (h.placed root hroot).owned n hn

theorem Sound.placed_registered (h : s.Sound owner) :
    ∀ schema ∈ s.registry.entries.map Prod.snd, schema.Placed owner s.store.next :=
  fun schema hschema => h.placed schema (List.mem_append_right _ hschema)

/-- What blueprints can refer to in a sound session is placed. -/
theorem Sound.surroundings (h : s.Sound owner) (dialect : PatternDialect) :
    (s.surroundings dialect).Placed owner s.store.next :=
  ⟨fun _ _ hname => h.placed _ (mem_roots_of_lookup? hname),
    fun _ _ hname => h.placed _ (mem_roots_of_get? hname)⟩

/-- A sound session becomes another sound session, with the nodes that are compiled on the way. -/
def Moves (owner : Ownership) (s : Session) (targets : List Schema) (s' : Session) : Prop :=
  ∃ owner' events, Advances owner s.store targets events owner' s'.store ∧ s'.Sound owner'

theorem Sound.stay (h : s.Sound owner) : Moves owner s [] s :=
  ⟨owner, [], (Extends.refl h.coherent).advances h.coherent, h⟩

/-- A step that compiles. -/
theorem Sound.compiled (h : s.Sound owner) {targets : List Schema} {events : List StoreEvent}
    {σ : Store} (hσ : Compiled owner s.store targets events σ) :
    Moves owner s targets { s with store := σ } := by
  refine ⟨owner, events, hσ.advances, hσ.coherent, fun root hroot => ?_⟩
  show root.Placed owner σ.next
  rw [hσ.next_eq]
  exact h.placed root hroot

/-- A step that builds, and that may come to know one more schema. -/
theorem Sound.extended (h : s.Sound owner) {s' : Session} {schema : Schema}
    (hσ : Extends owner s.store owner' s'.store)
    (hschema : schema.Placed owner' s'.store.next)
    (hroots : ∀ root ∈ s'.roots, root = schema ∨ root ∈ s.roots) : Moves owner s [] s' := by
  refine ⟨owner', [], hσ.advances h.coherent, hσ.coherent, fun root hroot => ?_⟩
  rcases hroots root hroot with rfl | hroot
  · exact hschema
  · exact hσ.placed (h.placed root hroot)

theorem roots_of_declare {store : Store} {name : String} {schema : Schema} :
    ∀ root ∈ roots { s with store := store, schemas := Shape.declare s.schemas name schema },
      root = schema ∨ root ∈ s.roots := by
  intro root hroot
  rcases List.mem_append.mp hroot with hroot | hroot
  · obtain ⟨f, hf, rfl⟩ := List.mem_map.mp hroot
    rcases Shape.mem_declare hf with rfl | hf
    · exact .inl rfl
    · exact .inr (List.mem_append_left _ (List.mem_map_of_mem hf))
  · exact .inr (List.mem_append_right _ hroot)

theorem roots_of_register {store : Store} {name : String} {schema : Schema} {registry : Registry}
    (h : s.registry.register name schema = .ok registry) :
    ∀ root ∈ roots { s with store := store, registry := registry },
      root = schema ∨ root ∈ s.roots := by
  unfold Registry.register at h
  split at h
  · cases h
  · cases h
    intro root hroot
    simp only [roots, List.map_append, List.mem_append, List.map_cons, List.map_nil,
      List.mem_singleton] at hroot ⊢
    rcases hroot with hroot | hroot | hroot
    · exact .inr (.inl hroot)
    · exact .inr (.inr hroot)
    · exact .inl hroot

/-- A step that needs a named schema. -/
theorem Sound.withSchema (h : s.Sound owner) {name : String} {act : Schema → Session × Reply}
    {targets : Schema → List Schema}
    (hact : ∀ schema, schema.Placed owner s.store.next →
      Moves owner s (targets schema) (act schema).1) :
    Moves owner s (((Shape.lookup? s.schemas name).map targets).getD [])
      (s.withSchema name act).1 := by
  unfold Session.withSchema
  cases hname : Shape.lookup? s.schemas name with
  | none => exact h.stay
  | some schema => exact hact schema (h.placed schema (mem_roots_of_lookup? hname))

/-- A step that needs a named schema and compiles nothing. -/
theorem Sound.withSchema_stay (h : s.Sound owner) {name : String} {act : Schema → Session × Reply}
    (hact : ∀ schema, schema.Placed owner s.store.next → Moves owner s [] (act schema).1) :
    Moves owner s [] (s.withSchema name act).1 := by
  have hmoves : Moves owner s _ (s.withSchema name act).1 := h.withSchema hact
  cases hname : Shape.lookup? s.schemas name <;> rwa [hname] at hmoves

/-- **Steps.** A step keeps a session sound. It changes the owners of new slots only, and of the slots
    that were in use it fills those of the nodes that it compiles. -/
theorem Sound.step (h : s.Sound owner) (dialect : PatternDialect) (st : Step) :
    Moves owner s (s.compiledBy st) (s.step dialect st).1 := by
  cases st with
  | define name blueprint =>
    show Moves owner s [] (Session.step dialect s (.define name blueprint)).1
    rw [Session.step]
    split
    · rename_i schema σ hbuild
      obtain ⟨⟨owner', hextends, hplaced⟩, -⟩ :=
        blueprint.makes _ owner _ _ h.coherent (h.surroundings dialect) hbuild
      exact h.extended hextends hplaced roots_of_declare
    · exact h.stay
  | pick name source directions =>
    refine h.withSchema_stay fun schema hschema => ?_
    split
    · rename_i node hnode
      have hplaced := hschema.of_nodes_subset (nodes_of_locate (.inl hnode))
      exact h.extended (.refl h.coherent) hplaced roots_of_declare
    · rename_i field hfield
      have hplaced := hschema.of_nodes_subset (nodes_of_locate (.inr hfield))
      have hshared := hplaced.of_nodes_subset (t := .shared .field field) fun _ hn => hn
      exact h.extended (.refl h.coherent) hshared roots_of_declare
    · exact h.stay
    · exact h.stay
  | register name blueprint =>
    show Moves owner s [] (Session.step dialect s (.register name blueprint)).1
    rw [Session.step]
    split
    · rename_i schema σ hbuild
      split
      · rename_i registry hregister
        obtain ⟨⟨owner', hextends, hplaced⟩, -⟩ :=
          blueprint.makes _ owner _ _ h.coherent (h.surroundings dialect) hbuild
        exact h.extended hextends hplaced (roots_of_register hregister)
      · exact h.stay
    · exact h.stay
  | compile name =>
    refine h.withSchema fun schema hschema => ?_
    obtain ⟨-, events, hcompiled⟩ := Schema.compile_compiled h.coherent hschema
    exact h.compiled hcompiled
  | validate name input path =>
    refine h.withSchema fun schema hschema => ?_
    obtain ⟨-, events, hcompiled⟩ := Schema.compile_compiled h.coherent hschema
    exact h.compiled hcompiled
  | batch name inputs =>
    refine h.withSchema fun schema hschema => ?_
    obtain ⟨-, events, hcompiled⟩ := Schema.compile_compiled h.coherent hschema
    exact h.compiled hcompiled
  | assemble name input path =>
    refine h.withSchema fun schema hschema => ?_
    obtain ⟨-, events, hcompiled⟩ := Schema.assembles owner schema _ h.coherent hschema
    exact h.compiled hcompiled
  | warm order =>
    obtain ⟨events, hcompiled⟩ := s.registry.warm_compiled order h.coherent h.placed_registered
    exact h.compiled hcompiled
  | validateRegistered name value =>
    rw [Session.step, compiledBy, Registry.validate]
    cases hname : s.registry.get? name with
    | none => exact h.stay
    | some schema =>
      obtain ⟨-, events, hcompiled⟩ :=
        Schema.compile_compiled h.coherent (h.placed schema (mem_roots_of_get? hname))
      exact h.compiled hcompiled
  | describe name directions =>
    refine h.withSchema_stay fun schema hschema => ?_
    split <;> exact h.stay
  | interpret name input path => exact h.withSchema_stay fun schema hschema => h.stay
  | fallback name input path => exact h.withSchema_stay fun schema hschema => h.stay
  | names => exact h.stay
  | get name =>
    show Moves owner s [] (Session.step dialect s (.get name)).1
    rw [Session.step]
    split <;> exact h.stay

/-! ## Runs -/

/-- The session after some steps from the start, when nothing is named or registered. -/
def reached (dialect : PatternDialect) (steps : List Step) : Session :=
  (Session.run dialect {} steps).1

theorem run_cons (dialect : PatternDialect) (s : Session) (first : Step) (rest : List Step) :
    s.run dialect (first :: rest) = (((s.step dialect first).1.run dialect rest).1,
      (s.step dialect first).2 :: ((s.step dialect first).1.run dialect rest).2) := rfl

theorem run_append (dialect : PatternDialect) (early late : List Step) :
    ∀ s : Session, (s.run dialect (early ++ late)).1 =
      ((s.run dialect early).1.run dialect late).1 := by
  induction early with
  | nil => exact fun s => rfl
  | cons first rest ih => exact fun s => ih (s.step dialect first).1

theorem reached_append (dialect : PatternDialect) (early late : List Step) :
    reached dialect (early ++ late) = ((reached dialect early).run dialect late).1 :=
  run_append dialect early late {}

/-- No pattern is well-formed. -/
def noPatterns : PatternDialect := fun _ => none

/-- A list of words that may be absent, compiled by a validation, and an object around it. -/
def wordsRun : List Step :=
  [.define "words" (.optional (.array (.string (some 1) none none) {})),
    .validate "words" (some (.array [.string "a", .string ""])) .root,
    .define "page" (.field (.object []) "words" (.share "words"))]

/-- A session stays sound if only slots that are not in use change owners. -/
theorem Sound.congr (h : s.Sound owner) (howner : ∀ k < s.store.next, owner' k = owner k) :
    s.Sound owner' := by
  have hplaced : ∀ n : Schema, n.Placed owner s.store.next → n.Placed owner' s.store.next :=
    fun n hn => hn.mono (Nat.le_refl _) howner
  refine ⟨⟨fun k hk => ?_, fun k r hr => ?_, fun k hk => ?_⟩, fun root hroot =>
    hplaced root (h.placed root hroot)⟩
  · rw [howner k (h.coherent.lt_next hk)]
    exact ⟨(h.coherent.placed k hk).1, hplaced _ (h.coherent.placed k hk).2⟩
  · rw [howner k (h.coherent.lt_next (populated_of_routine? hr))]
    exact h.coherent.agrees k r hr
  · rw [howner k (h.coherent.lt_next hk)]
    exact h.coherent.closed k hk

/-- **Runs.** One ownership serves all moments of a run. -/
theorem Sound.run (dialect : PatternDialect) (steps : List Step) :
    ∀ {owner : Ownership} {s : Session}, s.Sound owner →
      ∃ owner', (∀ k < s.store.next, owner' k = owner k) ∧
        ∀ i, (s.run dialect (steps.take i)).1.Sound owner' := by
  induction steps with
  | nil =>
    intro owner s h
    refine ⟨owner, fun _ _ => rfl, fun i => ?_⟩
    rw [List.take_nil]
    exact h
  | cons first rest ih =>
    intro owner s h
    obtain ⟨owner₁, events, hadvances, hsound⟩ := h.step dialect first
    obtain ⟨owner₂, hsame, hrest⟩ := ih hsound
    have howner : ∀ k < s.store.next, owner₂ k = owner k := fun k hk => by
      rw [hsame k (Nat.lt_of_lt_of_le hk hadvances.next_le), hadvances.owner_eq k hk]
    refine ⟨owner₂, howner, fun i => ?_⟩
    cases i with
    | zero => exact h.congr howner
    | succ i => exact hrest i

theorem sound_start : Sound (fun slot => .union slot []) {} where
  coherent :=
    { placed := fun _ hk => by cases hk
      agrees := fun _ _ hr => by cases hr
      closed := fun _ hk => by cases hk }
  placed := by simp [roots]

/-- Every state that can be reached is sound. -/
theorem reached_sound (dialect : PatternDialect) (steps : List Step) :
    ∃ owner, (reached dialect steps).Sound owner := by
  obtain ⟨owner, -, hsound⟩ := sound_start.run dialect steps
  refine ⟨owner, ?_⟩
  have hall := hsound steps.length
  rwa [List.take_length] at hall

end Session

end JsonValidation
