import JsonValidation.Proofs.Replies

/-!
# Cache soundness

A compiled routine is the interpreter of its node, when it is built and at every later moment of a
run, so caches never show in an outcome.

* `assembled_routine_agrees`: a new routine has the outcomes of the interpreter.
* `CachesSound`, `cache_sound_throughout_runs`: so has every routine that is kept, whatever is built,
  copied, shared, compiled, validated or registered in between.
-/

namespace JsonValidation.Session

open Store

/-- The ways to run a schema by a newly made routine have the outcome of the interpreter: the routine
    that it assembles, and the fallback, which interprets a copy. -/
def RoutinesAgree (s : Schema) (σ : Store) : Prop :=
  ∀ input path, (s.assemble σ).1 input path = s.interpret input path ∧
    s.fallback input path = s.interpret input path ∧
    (s.copy σ).1.fallback input path = s.interpret input path

theorem routinesAgree {owner : Ownership} {σ : Store} {s : Schema} (h : σ.Coherent owner)
    (hs : s.Placed owner σ.next) : RoutinesAgree s σ := by
  intro input path
  obtain ⟨_, -, -, hcopy, -⟩ := Schema.copy_copied s owner σ h hs
  refine ⟨?_, rfl, ?_⟩
  · rw [(Schema.assembles owner s σ h hs).1]
  · rw [Schema.fallback, hcopy]

/-- **Agreement of routines.** A schema that is placed in a coherent store, which includes every node
    of every session that can be reached, assembles to a routine with the outcomes of its interpreter:
    the same output, or the same failure with its path. Some of its slots may be filled already. -/
theorem assembled_routine_agrees :
    (∀ (owner : Ownership) (σ : Store) (s : Schema), σ.Coherent owner → s.Placed owner σ.next →
      RoutinesAgree s σ) ∧
    ∀ (dialect : PatternDialect) (steps : List Step), ∀ n ∈ (reached dialect steps).nodes,
      RoutinesAgree n (reached dialect steps).store := by
  refine ⟨fun owner σ s h hs => routinesAgree h hs, fun dialect steps n hn => ?_⟩
  obtain ⟨owner, hsound⟩ := reached_sound dialect steps
  exact routinesAgree hsound.coherent (hsound.placed_of_mem_nodes hn)

theorem assembled_routine_agrees_words : ∃ n ∈ (reached noPatterns wordsRun).nodes,
    n.kind = .object ∧ RoutinesAgree n (reached noPatterns wordsRun).store := by
  have hn := List.mem_of_getElem? (l := (reached noPatterns wordsRun).nodes) (i := 3) rfl
  exact ⟨_, hn, rfl, assembled_routine_agrees.2 noPatterns wordsRun _ hn⟩

/-- What the caches of a run come to, at its end and at all moments before. -/
structure CachesSound (dialect : PatternDialect) (steps : List Step) : Prop where
  /-- One assignment of nodes to slots serves the whole run: at every moment the nodes of the session
      have the slots that are theirs, and a slot that holds a routine holds the interpreter of the
      node that has the slot. -/
  held : ∃ owner : Ownership, ∀ i,
    (∀ n ∈ (reached dialect (steps.take i)).nodes, owner n.slot = n) ∧
    ∀ k r, (reached dialect (steps.take i)).store.routine? k = some r →
      (owner k).slot = k ∧ r = (owner k).interpret
  /-- Every way to run a node gives what the interpreter gives. -/
  runs : ∀ n ∈ (reached dialect steps).nodes, n.RunsAsInterpreted (reached dialect steps).store
  /-- So does validation by name. -/
  registered : ∀ name value,
    ((reached dialect steps).registry.validate name value (reached dialect steps).store).map Prod.fst =
      match (reached dialect steps).registry.get? name with
      | none => .error (.schemaNotFound name)
      | some schema => .ok ((schema.interpret (some value) .root).map Output.toValue?)
  /-- A name keeps its schema until a step rebinds it, and a registered one keeps it for ever. -/
  named : ∀ later name, (∀ st ∈ later, st.bound? ≠ some name) →
    Shape.lookup? (reached dialect (steps ++ later)).schemas name =
      Shape.lookup? (reached dialect steps).schemas name
  kept : ∀ later name schema, (reached dialect steps).registry.get? name = some schema →
    (reached dialect (steps ++ later)).registry.get? name = some schema
  /-- Steps that name and register nothing can be inserted or deleted. No later reply changes but for
      what it tells about caches. -/
  inserted : ∀ inserted later, (∀ st ∈ inserted, st.builds = false) →
    ((reached dialect (steps ++ inserted)).run dialect later).2.map Reply.withoutFlags =
      ((reached dialect steps).run dialect later).2.map Reply.withoutFlags

/-- **Cache soundness.** It holds for all steps in any order. -/
theorem cache_sound_throughout_runs (dialect : PatternDialect) (steps : List Step) :
    CachesSound dialect steps := by
  obtain ⟨owner, hsound⟩ := reached_sound dialect steps
  refine
    { held := ?_
      runs := fun n hn => Schema.runsAsInterpreted hsound.coherent (hsound.placed_of_mem_nodes hn)
      registered := fun name value => ?_
      named := fun later name hlater => ?_
      kept := fun later name schema hname => ?_
      inserted := fun inserted later hinserted => ?_ }
  · obtain ⟨owner, -, hall⟩ := sound_start.run dialect steps
    refine ⟨owner, fun i => ⟨fun n hn => (hall i).owned hn, fun k r hr => ?_⟩⟩
    exact ⟨((hall i).coherent.placed k (populated_of_routine? hr)).1, (hall i).coherent.agrees k r hr⟩
  · exact Registry.validate_eq _ hsound.coherent hsound.placed_registered name value
  · rw [reached_append]
    exact (hsound.names_run dialect later).1 name hlater
  · rw [reached_append]
    exact (hsound.names_run dialect later).2 name schema hname
  · obtain ⟨owner', hsound'⟩ := reached_sound dialect (steps ++ inserted)
    rw [reached_append] at hsound' ⊢
    exact run_alike dialect later (hsound.alike_run dialect inserted hinserted).symm hsound' hsound

theorem cache_sound_words :
    (∃ n ∈ (reached noPatterns wordsRun).nodes,
      n.kind = .object ∧ n.RunsAsInterpreted (reached noPatterns wordsRun).store) ∧
    ((reached noPatterns (wordsRun ++ [.compile "page", .warm])).run noPatterns
        [.get "page", .batch "page" [.null]]).2.map Reply.withoutFlags =
      ((reached noPatterns wordsRun).run noPatterns
        [.get "page", .batch "page" [.null]]).2.map Reply.withoutFlags := by
  have hsound := cache_sound_throughout_runs noPatterns wordsRun
  have hn := List.mem_of_getElem? (l := (reached noPatterns wordsRun).nodes) (i := 3) rfl
  exact ⟨⟨_, hn, rfl, hsound.runs _ hn⟩, hsound.inserted _ _ (by decide)⟩

end JsonValidation.Session
