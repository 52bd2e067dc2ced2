import JsonValidation.Proofs.CacheIndependence
import JsonValidation.Proofs.Registries

/-!
# Replies do not depend on caches

What a step replies is decided by the schemas of the session and by the interpreter. Only the flags
that say what is compiled, and the count of newly compiled schemas, tell something about the caches.

* `Schema.RunsAsInterpreted`: every way to run a schema gives what the interpreter gives.
* `Reply.withoutFlags`: a reply without what it tells about caches.
* `Session.Alike`: sessions that differ in their caches only.
* `Session.run_alike`: such sessions give the same replies to the same steps.
* `Sound.alike_run`, `Sound.names_run`: what steps leave as it is.
* `reached_runsAsInterpreted`: the nodes of all states that can be reached.
-/

namespace JsonValidation

open Store

namespace Schema

/-- Every way to run a schema in a store gives what the interpreter gives. -/
structure RunsAsInterpreted (s : Schema) (σ : Store) : Prop where
  compile_eq : (s.compile σ).1 = s.interpret
  assemble_eq : (s.assemble σ).1 = s.interpret
  fallback_eq : s.fallback = s.interpret
  validate_eq : ∀ input path, (s.validate input path σ).1 = s.interpret input path
  validateBatch_eq : ∀ inputs,
    (s.validateBatch inputs σ).1 = inputs.map fun input => s.interpret (some input) .root

theorem runsAsInterpreted {owner : Ownership} {σ : Store} {s : Schema} (h : σ.Coherent owner)
    (hs : s.Placed owner σ.next) : s.RunsAsInterpreted σ := by
  obtain ⟨hroutine, -⟩ := compile_compiled h hs
  refine ⟨hroutine, (assembles owner s σ h hs).1, rfl, fun input path => ?_, fun inputs => ?_⟩
  · show (s.compile σ).1 input path = _
    rw [hroutine]
  · show inputs.map (fun input => (s.compile σ).1 (some input) .root) = _
    rw [hroutine]

end Schema

namespace Registry

variable {owner : Ownership} {σ : Store} {r : Registry} {name : String} {schema : Schema}

/-- Validation by a name that is registered. -/
theorem validate_of_some (h : σ.Coherent owner) (hschema : schema.Placed owner σ.next)
    (hname : r.get? name = some schema) (value : Value) :
    r.validate name value σ =
      .ok ((schema.interpret (some value) .root).map Output.toValue?, (schema.compile σ).2) := by
  obtain ⟨hroutine, -⟩ := Schema.compile_compiled h hschema
  rw [validate, hname]
  show Except.ok ((schema.compile σ).1.values (some value) .root, (schema.compile σ).2) = _
  rw [hroutine]
  rfl

/-- Validation by name, without its effect on the store. -/
theorem validate_eq (r : Registry) (h : σ.Coherent owner)
    (hr : ∀ s ∈ r.entries.map Prod.snd, s.Placed owner σ.next) (name : String) (value : Value) :
    (r.validate name value σ).map Prod.fst =
      match r.get? name with
      | none => .error (.schemaNotFound name)
      | some schema => .ok ((schema.interpret (some value) .root).map Output.toValue?) := by
  cases hname : r.get? name with
  | none =>
    rw [validate, hname]
    rfl
  | some schema =>
    rw [validate_of_some h (hr schema (mem_of_get? hname)) hname]
    rfl

end Registry

namespace Session

/-- A reply without what it tells about caches: the flag of a node, and how many schemas a warming
    compiled. -/
def Reply.withoutFlags : Reply → Reply
  | .described description => .described { description with compiled := false }
  | .warmed _ => .warmed 0
  | reply => reply

/-- Whether a step names or registers a schema, which may make new nodes. -/
def Step.builds : Step → Bool
  | .define .. => true
  | .pick .. => true
  | .register .. => true
  | _ => false

/-- The name that a step gives to a schema. -/
def Step.bound? : Step → Option String
  | .define name _ => some name
  | .pick name _ _ => some name
  | _ => none

/-- Two sessions with the same schemas in the same slots. They may differ in what is compiled. -/
structure Alike (s t : Session) : Prop where
  next_eq : s.store.next = t.store.next
  schemas_eq : s.schemas = t.schemas
  registry_eq : s.registry = t.registry

/-- Steps that lead to sessions alike and that have the same reply, flags apart. -/
def Agree (p q : Session × Reply) : Prop :=
  Alike p.1 q.1 ∧ p.2.withoutFlags = q.2.withoutFlags

variable {owner owner' : Ownership} {s t u : Session}

theorem Alike.refl (s : Session) : Alike s s := ⟨rfl, rfl, rfl⟩

theorem Alike.trans (h₁ : Alike s t) (h₂ : Alike t u) : Alike s u :=
  ⟨h₁.next_eq.trans h₂.next_eq, h₁.schemas_eq.trans h₂.schemas_eq,
    h₁.registry_eq.trans h₂.registry_eq⟩

theorem Alike.symm (h : Alike s t) : Alike t s :=
  ⟨h.next_eq.symm, h.schemas_eq.symm, h.registry_eq.symm⟩

/-- A compilation leaves a session that is like the one before. -/
theorem Alike.of_compiled {targets : List Schema} {events : List StoreEvent} {σ : Store}
    (h : Compiled owner s.store targets events σ) : Alike s { s with store := σ } :=
  ⟨h.next_eq.symm, rfl, rfl⟩

theorem Alike.compiled (h : Alike s t) {xs ys : List Schema} {early late : List StoreEvent}
    {σ τ : Store} (hσ : Compiled owner s.store xs early σ) (hτ : Compiled owner' t.store ys late τ) :
    Alike { s with store := σ } { t with store := τ } :=
  ((Alike.of_compiled hσ).symm.trans h).trans (.of_compiled hτ)

/-- A step that needs a named schema. -/
theorem Alike.withSchema (h : Alike s t) (hs : s.Sound owner) (ht : t.Sound owner') {name : String}
    {act act' : Schema → Session × Reply}
    (hact : ∀ schema, schema.Placed owner s.store.next → schema.Placed owner' t.store.next →
      Agree (act schema) (act' schema)) :
    Agree (s.withSchema name act) (t.withSchema name act') := by
  unfold Session.withSchema
  rw [← h.schemas_eq]
  cases hname : Shape.lookup? s.schemas name with
  | none => exact ⟨h, rfl⟩
  | some schema =>
    have hname' : Shape.lookup? t.schemas name = some schema := by rw [← h.schemas_eq, hname]
    exact hact schema (hs.placed schema (mem_roots_of_lookup? hname))
      (ht.placed schema (mem_roots_of_lookup? hname'))

/-- A step that builds a blueprint first. -/
theorem Alike.build (h : Alike s t) (dialect : PatternDialect) (blueprint : Blueprint) :
    (∃ e, blueprint.build (s.surroundings dialect) s.store = .error e ∧
      blueprint.build (t.surroundings dialect) t.store = .error e) ∨
    ∃ schema σ τ, blueprint.build (s.surroundings dialect) s.store = .ok (schema, σ) ∧
      blueprint.build (t.surroundings dialect) t.store = .ok (schema, τ) ∧ σ.next = τ.next := by
  have hsurroundings : s.surroundings dialect = t.surroundings dialect := by
    rw [surroundings, surroundings, h.schemas_eq, h.registry_eq]
  have hbuild := blueprint.build_ignoresCaches (s.surroundings dialect) _ _ h.next_eq
  rw [← hsurroundings]
  cases hσ : blueprint.build (s.surroundings dialect) s.store with
  | error e =>
    cases hτ : blueprint.build (s.surroundings dialect) t.store with
    | error e' =>
      rw [hσ, hτ] at hbuild
      cases hbuild
      exact .inl ⟨e, rfl, rfl⟩
    | ok made => rw [hσ, hτ] at hbuild; cases hbuild
  | ok made =>
    cases hτ : blueprint.build (s.surroundings dialect) t.store with
    | error e' => rw [hσ, hτ] at hbuild; cases hbuild
    | ok made' =>
      rw [hσ, hτ] at hbuild
      obtain ⟨hschema, hnext⟩ := Prod.mk.inj (Except.ok.inj hbuild)
      refine .inr ⟨made.1, made.2, made'.2, rfl, ?_, hnext⟩
      rw [hschema]

/-- **Steps.** A step in sessions alike gives the same reply, flags apart, and leaves sessions
    alike. -/
theorem step_alike (dialect : PatternDialect) (h : Alike s t) (hs : s.Sound owner)
    (ht : t.Sound owner') (st : Step) : Agree (s.step dialect st) (t.step dialect st) := by
  cases st with
  | define name blueprint =>
    rcases h.build dialect blueprint with ⟨e, hσ, hτ⟩ | ⟨schema, σ, τ, hσ, hτ, hnext⟩
    · rw [step, step, hσ, hτ]
      exact ⟨h, rfl⟩
    · rw [step, step, hσ, hτ]
      exact ⟨⟨hnext, by rw [h.schemas_eq], h.registry_eq⟩, rfl⟩
  | register name blueprint =>
    rcases h.build dialect blueprint with ⟨e, hσ, hτ⟩ | ⟨schema, σ, τ, hσ, hτ, hnext⟩
    · rw [step, step, hσ, hτ]
      exact ⟨h, rfl⟩
    · rw [step, step, hσ, hτ]
      dsimp only
      rw [h.registry_eq]
      cases t.registry.register name schema with
      | error e => exact ⟨h, rfl⟩
      | ok registry => exact ⟨⟨hnext, h.schemas_eq, rfl⟩, rfl⟩
  | pick name source directions =>
    refine h.withSchema hs ht fun schema _ _ => ?_
    split
    · exact ⟨⟨h.next_eq, by rw [bind, bind, h.schemas_eq], h.registry_eq⟩, rfl⟩
    · exact ⟨⟨h.next_eq, by rw [bind, bind, h.schemas_eq], h.registry_eq⟩, rfl⟩
    · exact ⟨h, rfl⟩
    · exact ⟨h, rfl⟩
  | describe name directions =>
    refine h.withSchema hs ht fun schema _ _ => ?_
    split <;> exact ⟨h, rfl⟩
  | compile name =>
    refine h.withSchema hs ht fun schema hplaced hplaced' => ?_
    obtain ⟨-, _, hσ⟩ := Schema.compile_compiled hs.coherent hplaced
    obtain ⟨-, _, hτ⟩ := Schema.compile_compiled ht.coherent hplaced'
    exact ⟨h.compiled hσ hτ, rfl⟩
  | validate name input path =>
    refine h.withSchema hs ht fun schema hplaced hplaced' => ?_
    obtain ⟨-, _, hσ⟩ := Schema.compile_compiled hs.coherent hplaced
    obtain ⟨-, _, hτ⟩ := Schema.compile_compiled ht.coherent hplaced'
    refine ⟨h.compiled hσ hτ, ?_⟩
    show Reply.outcome (schema.validate input path s.store).1 =
      Reply.outcome (schema.validate input path t.store).1
    rw [(Schema.runsAsInterpreted hs.coherent hplaced).validate_eq,
      (Schema.runsAsInterpreted ht.coherent hplaced').validate_eq]
  | interpret name input path => exact h.withSchema hs ht fun schema _ _ => ⟨h, rfl⟩
  | fallback name input path => exact h.withSchema hs ht fun schema _ _ => ⟨h, rfl⟩
  | assemble name input path =>
    refine h.withSchema hs ht fun schema hplaced hplaced' => ?_
    obtain ⟨hroutine, _, hσ⟩ := Schema.assembles owner schema _ hs.coherent hplaced
    obtain ⟨hroutine', _, hτ⟩ := Schema.assembles owner' schema _ ht.coherent hplaced'
    refine ⟨h.compiled hσ hτ, ?_⟩
    show Reply.outcome ((schema.assemble s.store).1 input path) =
      Reply.outcome ((schema.assemble t.store).1 input path)
    rw [hroutine, hroutine']
  | batch name inputs =>
    refine h.withSchema hs ht fun schema hplaced hplaced' => ?_
    obtain ⟨-, _, hσ⟩ := Schema.compile_compiled hs.coherent hplaced
    obtain ⟨-, _, hτ⟩ := Schema.compile_compiled ht.coherent hplaced'
    refine ⟨h.compiled hσ hτ, ?_⟩
    show Reply.outcomes (schema.validateBatch inputs s.store).1 =
      Reply.outcomes (schema.validateBatch inputs t.store).1
    rw [(Schema.runsAsInterpreted hs.coherent hplaced).validateBatch_eq,
      (Schema.runsAsInterpreted ht.coherent hplaced').validateBatch_eq]
  | names => exact ⟨h, by rw [step, step, h.registry_eq]⟩
  | get name =>
    rw [step, step, h.registry_eq]
    split <;> exact ⟨h, rfl⟩
  | warm order =>
    obtain ⟨_, hσ⟩ := s.registry.warm_compiled order hs.coherent hs.placed_registered
    obtain ⟨_, hτ⟩ := t.registry.warm_compiled order ht.coherent ht.placed_registered
    exact ⟨h.compiled hσ hτ, rfl⟩
  | validateRegistered name value =>
    have hsame : t.registry.get? name = s.registry.get? name := by rw [h.registry_eq]
    cases hname : s.registry.get? name with
    | none =>
      rw [step_validateRegistered_of_none hname, step_validateRegistered_of_none (hsame.trans hname)]
      exact ⟨h, rfl⟩
    | some schema =>
      have hname' := hsame.trans hname
      have hplaced := hs.placed schema (mem_roots_of_get? hname)
      have hplaced' := ht.placed schema (mem_roots_of_get? hname')
      obtain ⟨-, _, hσ⟩ := Schema.compile_compiled hs.coherent hplaced
      obtain ⟨-, _, hτ⟩ := Schema.compile_compiled ht.coherent hplaced'
      rw [step, step, Registry.validate_of_some hs.coherent hplaced hname,
        Registry.validate_of_some ht.coherent hplaced' hname']
      exact ⟨h.compiled hσ hτ, rfl⟩

/-- **Runs.** Sessions that differ in their caches only give the same replies, flags apart, to any
    steps. -/
theorem run_alike (dialect : PatternDialect) (steps : List Step) :
    ∀ {owner owner' : Ownership} {s t : Session}, Alike s t → s.Sound owner → t.Sound owner' →
      (s.run dialect steps).2.map Reply.withoutFlags =
        (t.run dialect steps).2.map Reply.withoutFlags := by
  induction steps with
  | nil => exact fun _ _ _ => rfl
  | cons first rest ih =>
    intro owner owner' s t h hs ht
    obtain ⟨halike, hreply⟩ := step_alike dialect h hs ht first
    obtain ⟨_, _, _, hs'⟩ := hs.step dialect first
    obtain ⟨_, _, _, ht'⟩ := ht.step dialect first
    rw [run_cons, run_cons, List.map_cons, List.map_cons, hreply, ih halike hs' ht']

/-! ## What a step leaves as it is -/

theorem Sound.withSchema_alike (hs : s.Sound owner) {name : String}
    {act : Schema → Session × Reply}
    (hact : ∀ schema, schema.Placed owner s.store.next → Alike s (act schema).1) :
    Alike s (s.withSchema name act).1 := by
  unfold Session.withSchema
  split
  · rename_i schema hname
    exact hact schema (hs.placed schema (mem_roots_of_lookup? hname))
  · exact .refl s

/-- A step that names and registers nothing changes nothing but caches. -/
theorem Sound.alike_step (hs : s.Sound owner) (dialect : PatternDialect) {st : Step}
    (hst : st.builds = false) : Alike s (s.step dialect st).1 := by
  cases st with
  | define | pick | register => cases hst
  | describe name directions =>
    refine hs.withSchema_alike fun schema _ => ?_
    split <;> exact .refl s
  | compile name | validate name | batch name =>
    refine hs.withSchema_alike fun schema hplaced => ?_
    obtain ⟨-, _, hσ⟩ := Schema.compile_compiled hs.coherent hplaced
    exact .of_compiled hσ
  | interpret name | fallback name => exact hs.withSchema_alike fun schema _ => .refl s
  | assemble name =>
    refine hs.withSchema_alike fun schema hplaced => ?_
    obtain ⟨-, _, hσ⟩ := Schema.assembles owner schema _ hs.coherent hplaced
    exact .of_compiled hσ
  | names => exact .refl s
  | get name =>
    rw [Session.step]
    split <;> exact .refl s
  | warm order =>
    obtain ⟨_, hσ⟩ := s.registry.warm_compiled order hs.coherent hs.placed_registered
    exact .of_compiled hσ
  | validateRegistered name value =>
    rw [Session.step, Registry.validate]
    cases hname : s.registry.get? name with
    | none => exact .refl s
    | some schema =>
      obtain ⟨-, _, hσ⟩ :=
        Schema.compile_compiled hs.coherent (hs.placed schema (mem_roots_of_get? hname))
      exact .of_compiled hσ

theorem Sound.alike_run (dialect : PatternDialect) (steps : List Step) :
    ∀ {owner : Ownership} {s : Session}, s.Sound owner → (∀ st ∈ steps, st.builds = false) →
      Alike s (s.run dialect steps).1 := by
  induction steps with
  | nil => exact fun _ _ => .refl _
  | cons first rest ih =>
    intro owner s hs hsteps
    obtain ⟨hfirst, hrest⟩ := List.forall_mem_cons.mp hsteps
    obtain ⟨_, _, _, hs'⟩ := hs.step dialect first
    exact (hs.alike_step dialect hfirst).trans (ih hs' hrest)

/-- A name keeps its schema until a step gives the name to another one. -/
theorem Sound.lookup_step (hs : s.Sound owner) (dialect : PatternDialect) {st : Step} {name : String}
    (hst : st.bound? ≠ some name) :
    Shape.lookup? (s.step dialect st).1.schemas name = Shape.lookup? s.schemas name := by
  have hother : ∀ {key : String}, some key ≠ some name → ∀ schema : Schema,
      Shape.lookup? (Shape.declare s.schemas key schema) name = Shape.lookup? s.schemas name := by
    intro key hkey schema
    rw [Shape.lookup_declare, if_neg fun h => hkey (congrArg some h)]
  cases st with
  | define key blueprint =>
    rw [Session.step]
    split
    · exact hother hst _
    · rfl
  | pick key source directions =>
    rw [Session.step, Session.withSchema]
    split
    · split
      · exact hother hst _
      · exact hother hst _
      · rfl
      · rfl
    · rfl
  | register key blueprint =>
    rw [Session.step]
    split
    · split <;> rfl
    · rfl
  | _ => rw [← (hs.alike_step dialect rfl).schemas_eq]

/-- What names stand for throughout a run. -/
theorem Sound.names_run (dialect : PatternDialect) (steps : List Step) :
    ∀ {owner : Ownership} {s : Session}, s.Sound owner →
      (∀ name, (∀ st ∈ steps, st.bound? ≠ some name) →
        Shape.lookup? (s.run dialect steps).1.schemas name = Shape.lookup? s.schemas name) ∧
      ∀ name schema, s.registry.get? name = some schema →
        (s.run dialect steps).1.registry.get? name = some schema := by
  induction steps with
  | nil => exact fun _ => ⟨fun _ _ => rfl, fun _ _ hname => hname⟩
  | cons first rest ih =>
    intro owner s hs
    obtain ⟨_, _, _, hs'⟩ := hs.step dialect first
    obtain ⟨hlookup, hget⟩ := ih hs'
    refine ⟨fun name hsteps => ?_, fun name schema hname =>
      hget name schema ((get?_step dialect s first).mpr (.inl hname))⟩
    obtain ⟨hfirst, hrest⟩ := List.forall_mem_cons.mp hsteps
    rw [run_cons, hlookup name hrest, hs.lookup_step dialect hfirst]

/-- At every state that can be reached, all nodes run as they are interpreted. -/
theorem reached_runsAsInterpreted {dialect : PatternDialect} {steps : List Step} {n : Schema}
    (hn : n ∈ (reached dialect steps).nodes) :
    n.RunsAsInterpreted (reached dialect steps).store := by
  obtain ⟨owner, h⟩ := reached_sound dialect steps
  exact Schema.runsAsInterpreted h.coherent (h.placed_of_mem_nodes hn)

end Session

end JsonValidation
