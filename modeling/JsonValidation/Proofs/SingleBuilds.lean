import JsonValidation.Proofs.Agendas
import JsonValidation.Proofs.Footprint
import Mathlib.Data.List.Nodup

/-!
# Every routine is built once

Nodes can be shared, so there may be exponentially many ways down from a node to one below it. Each
slot is built on the first of them and only asked on the others, which makes compiling linear in the
number of slots and of their children. No build is begun while it is under way, and none is begun twice
in a whole run.

* `Store.BuiltOnce`: no build of the history began twice, and all of them have ended.
* `Store.WorksOff`, `worksOff`: the agenda of some schemas comes to its end, in a known number of turns.
* `Session.asks`, `Sound.store_step`: what a step asks, and that it does no more than this or building.
* `Session.CompilesInTurns`, `compiles_once_throughout_runs`: all compilations of a run.
-/

namespace JsonValidation

open Agenda

/-- Compiling schemas one after the other, skipping what is compiled. -/
theorem Schema.store_warmAll (schemas : List Schema) :
    ∀ σ : Store, (warmAll schemas σ).2 = compileAll schemas σ := by
  induction schemas with
  | nil => exact fun _ => rfl
  | cons schema rest ih =>
    intro σ
    rw [warmAll]
    split
    · rename_i hp
      rw [ih, compileAll, compileAll, List.foldl_cons, compile_of_populated hp]
    · exact ih (schema.compile σ).2

namespace Store

variable {owner owner' : Ownership} {σ σ' : Store} {schemas : List Schema} {bound : Slot}

/-- No build of the history began twice, and all builds have ended. -/
structure BuiltOnce (σ : Store) : Prop where
  once : (begun σ.history).Nodup
  settled : ∀ k ∈ begun σ.history, σ.populated k

/-- The tasks of asking the slots of some schemas. -/
def asksOf (schemas : List Schema) : List Task := (schemas.map Schema.slot).map .ask

theorem underWay_asksOf (schemas : List Schema) : underWay (asksOf schemas) = [] := by
  simpa [asksOf] using underWay_asks (schemas.map Schema.slot) []

/-- Nothing is under way when an agenda starts. -/
theorem BuiltOnce.orderly (h : σ.BuiltOnce) (schemas : List Schema) :
    (σ.agenda (asksOf schemas)).Orderly where
  once := h.once
  underWay_once := by
    rw [agenda, underWay_asksOf]
    exact .nil
  empty := by simp [agenda, underWay_asksOf]
  settled k hk := .inl (h.settled k hk)

theorem BuiltOnce.of_orderly (h : (σ.agenda []).Orderly) : σ.BuiltOnce :=
  ⟨h.once, fun k hk => (h.settled k hk).resolve_right List.not_mem_nil⟩

/-- Building new nodes begins no build. -/
theorem BuiltOnce.extends (h : σ.BuiltOnce) (hσ : σ.Coherent owner)
    (hext : Extends owner σ owner' σ') : σ'.BuiltOnce := by
  refine ⟨by rw [hext.history_eq]; exact h.once, fun k hk => ?_⟩
  rw [hext.history_eq] at hk
  have hp := h.settled k hk
  rwa [hext.populated_eq (hσ.lt_next hp)]

/-- An agenda that asks some slots comes to its end, with no deadlock on the way. The slots that it
    fills are each built once, and each of them takes as many turns as it is made from slots, and one
    more. -/
def WorksOff (heap : Heap) (σ : Store) (schemas : List Schema) (σ' : Store) : Prop :=
  ∃ built : List Slot, built.Nodup ∧ (∀ k, k ∈ built ↔ σ.populated k = false ∧ σ'.populated k) ∧
    turns? heap (schemas.length + buildTurns heap built) (σ.agenda (asksOf schemas)) =
      some (σ'.agenda []) ∧
    ∀ n a, turns? heap n (σ.agenda (asksOf schemas)) = some a → ¬a.Deadlocked heap

/-- Placed schemas are compiled by working off their agenda. -/
theorem worksOff (h : σ.BuiltOnce) (hs : ∀ s ∈ schemas, s.Placed owner bound) :
    WorksOff owner.heap σ schemas (Schema.compileAll schemas σ) ∧
      (Schema.compileAll schemas σ).BuiltOnce := by
  obtain ⟨n, hturns⟩ := Schema.turns_asks (fun s hmem => Schema.turns_ask (hs s hmem)) σ [] (by simp)
  rw [List.append_nil] at hturns
  have horderly := (h.orderly schemas).turns hturns
  obtain ⟨events, hhistory, hclaims, hnew⟩ := grows_turns hturns
  have hbegun : begun (Schema.compileAll schemas σ).history = begun events ++ begun σ.history := by
    rw [← begun_append]
    exact congrArg begun hhistory
  have hlength := length_turns hturns
  have hn : n = schemas.length + buildTurns owner.heap (begun events) := by
    simp only [agenda, hbegun, buildTurns, List.length_nil, List.length_map, List.flatMap_append,
      List.length_append] at hlength ⊢
    omega
  refine ⟨⟨begun events, ?_, fun k => ?_, by rwa [← hn], fun m a => not_deadlocked hturns rfl⟩,
    .of_orderly horderly⟩
  · have honce := horderly.once
    rw [agenda, hbegun] at honce
    exact (List.nodup_append.mp honce).1
  · have hstart : (σ.agenda (asksOf schemas)).Claims k ↔ σ.populated k := by
      simp [Claims, agenda, underWay_asksOf]
    have hend : ((Schema.compileAll schemas σ).agenda []).Claims k ↔
        (Schema.compileAll schemas σ).populated k := by
      simp [Claims, agenda]
    have hclaims : (Schema.compileAll schemas σ).populated k ↔ σ.populated k ∨ k ∈ begun events := by
      rw [← hstart, ← hend]
      exact hclaims k
    have hnew : k ∈ begun events → ¬σ.populated k := by
      rw [← hstart]
      exact hnew k
    rw [← Bool.not_eq_true]
    exact ⟨fun hk => ⟨hnew hk, hclaims.mpr (.inr hk)⟩, fun hk => (hclaims.mp hk.2).resolve_left hk.1⟩

end Store

namespace Session

open Store

variable {owner : Ownership} {s : Session}

/-- The schemas whose slots a step asks, in their order. -/
def asks (s : Session) : Step → List Schema
  | .compile name => (Shape.lookup? s.schemas name).toList
  | .validate name _ _ => (Shape.lookup? s.schemas name).toList
  | .batch name _ => (Shape.lookup? s.schemas name).toList
  | .assemble name _ _ => ((Shape.lookup? s.schemas name).map Schema.children).getD []
  | .warm order => order.filterMap s.registry.get? ++ s.registry.entries.map Prod.snd
  | .validateRegistered name _ => (s.registry.get? name).toList
  | _ => []

/-- What a step asks is placed. -/
theorem Sound.placed_asks (h : s.Sound owner) (st : Step) :
    ∀ t ∈ s.asks st, t.Placed owner s.store.next := by
  intro t ht
  cases st with
  | compile name | validate name | batch name =>
    exact h.placed t (mem_roots_of_lookup? (Option.mem_toList.mp ht))
  | validateRegistered name => exact h.placed t (mem_roots_of_get? (Option.mem_toList.mp ht))
  | assemble name =>
    rw [asks] at ht
    cases hname : Shape.lookup? s.schemas name with
    | none =>
      rw [hname] at ht
      cases ht
    | some schema =>
      rw [hname] at ht
      exact (h.placed schema (mem_roots_of_lookup? hname)).child ht
  | warm order =>
    rcases List.mem_append.mp ht with ht | ht
    · obtain ⟨name, -, hname⟩ := List.mem_filterMap.mp ht
      exact h.placed t (mem_roots_of_get? hname)
    · exact h.placed_registered t ht
  | _ => cases ht

/-- A step that needs a named schema and changes the store, if at all, by compiling. -/
theorem store_withSchema {name : String} {act : Schema → Session × Reply}
    {asked : Schema → List Schema}
    (hact : ∀ schema, (act schema).1.store = Schema.compileAll (asked schema) s.store) :
    (s.withSchema name act).1.store =
      Schema.compileAll (((Shape.lookup? s.schemas name).map asked).getD []) s.store := by
  unfold Session.withSchema
  cases Shape.lookup? s.schemas name with
  | none => rfl
  | some schema => exact hact schema

/-- A step that needs a named schema and leaves the store as it is. -/
theorem store_withSchema_stay {name : String} {act : Schema → Session × Reply}
    (hact : ∀ schema, (act schema).1.store = s.store) : (s.withSchema name act).1.store = s.store := by
  unfold Session.withSchema
  cases Shape.lookup? s.schemas name with
  | none => rfl
  | some schema => exact hact schema

/-- What a step does to the store: it compiles what it asks, or it makes new nodes. -/
theorem Sound.store_step (h : s.Sound owner) (dialect : PatternDialect) (st : Step) :
    (s.step dialect st).1.store = Schema.compileAll (s.asks st) s.store ∨
      s.asks st = [] ∧ ∃ owner', Extends owner s.store owner' (s.step dialect st).1.store := by
  have htoList : ∀ o : Option Schema, (o.map fun t => [t]).getD [] = o.toList := by
    intro o
    cases o <;> rfl
  cases st with
  | define name blueprint =>
    rw [Session.step]
    split
    · rename_i schema σ hbuild
      obtain ⟨⟨owner', hextends, -⟩, -⟩ :=
        blueprint.makes _ owner _ _ h.coherent (h.surroundings dialect) hbuild
      exact .inr ⟨rfl, owner', hextends⟩
    · exact .inl rfl
  | register name blueprint =>
    rw [Session.step]
    split
    · rename_i schema σ hbuild
      split
      · obtain ⟨⟨owner', hextends, -⟩, -⟩ :=
          blueprint.makes _ owner _ _ h.coherent (h.surroundings dialect) hbuild
        exact .inr ⟨rfl, owner', hextends⟩
      · exact .inl rfl
    · exact .inl rfl
  | pick name source directions =>
    refine .inl (store_withSchema_stay fun schema => ?_)
    split <;> rfl
  | describe name directions =>
    refine .inl (store_withSchema_stay fun schema => ?_)
    split <;> rfl
  | interpret name | fallback name => exact .inl (store_withSchema_stay fun schema => rfl)
  | compile name | validate name | batch name =>
    left
    rw [asks, ← htoList]
    exact store_withSchema fun schema => rfl
  | assemble name =>
    exact .inl (store_withSchema fun schema => schema.store_assemble s.store)
  | warm order => exact .inl (Schema.store_warmAll _ s.store)
  | validateRegistered name value =>
    left
    rw [Session.step, Registry.validate, asks]
    cases s.registry.get? name <;> rfl
  | names => exact .inl rfl
  | get name =>
    left
    rw [Session.step]
    split <;> rfl

theorem Sound.builtOnce_step (h : s.Sound owner) (hs : s.store.BuiltOnce) (dialect : PatternDialect)
    (st : Step) : (s.step dialect st).1.store.BuiltOnce := by
  rcases h.store_step dialect st with hstore | ⟨-, owner', hextends⟩
  · rw [hstore]
    exact (worksOff hs (h.placed_asks st)).2
  · exact hs.extends h.coherent hextends

theorem builtOnce_run (dialect : PatternDialect) (steps : List Step) :
    ∀ {owner : Ownership} {s : Session}, s.Sound owner → s.store.BuiltOnce →
      (s.run dialect steps).1.store.BuiltOnce := by
  induction steps with
  | nil => exact fun _ hs => hs
  | cons first rest ih =>
    intro owner s h hs
    obtain ⟨_, _, -, h'⟩ := h.step dialect first
    exact ih h' (h.builtOnce_step hs dialect first)

theorem builtOnce_reached (dialect : PatternDialect) (steps : List Step) :
    (reached dialect steps).store.BuiltOnce :=
  builtOnce_run dialect steps sound_start ⟨.nil, by simp⟩

/-- How the nodes of a session are compiled, on a heap of slots. -/
structure CompilesInTurns (heap : Heap) (dialect : PatternDialect) (s : Session) : Prop where
  /-- The heap is that of the nodes of the session, and it has no cycles. -/
  heap_eq : ∀ n ∈ s.nodes, heap n.slot = n.children.map Schema.slot
  lt : ∀ n ∈ s.nodes, ∀ k ∈ heap n.slot, k < n.slot
  /-- Compiling a node comes to its end without a deadlock. It builds the slots of the node and of its
      descendants that were empty, each once, however many ways lead down to them. -/
  compile : ∀ n ∈ s.nodes, ∃ built : List Slot, built.Nodup ∧
    (∀ k, k ∈ built ↔ s.store.populated k = false ∧ ∃ m ∈ n.nodes, m.slot = k) ∧
    turns? heap (1 + buildTurns heap built) (s.store.agenda [.ask n.slot]) =
      some ((n.compile s.store).2.agenda []) ∧
    ∀ m a, turns? heap m (s.store.agenda [.ask n.slot]) = some a → ¬a.Deadlocked heap
  /-- So does every step, and it does nothing else to the caches. -/
  step : ∀ st, ∃ σ, WorksOff heap s.store (s.asks st) σ ∧
    (s.step dialect st).1.store.history = σ.history ∧
    ∀ k < s.store.next, (s.step dialect st).1.store.populated k = σ.populated k

theorem Sound.compilesInTurns (h : s.Sound owner) (hs : s.store.BuiltOnce)
    (dialect : PatternDialect) : CompilesInTurns owner.heap dialect s where
  heap_eq n hn := (h.placed_of_mem_nodes hn).heap_slot
  lt n hn k hk := by
    rw [(h.placed_of_mem_nodes hn).heap_slot] at hk
    obtain ⟨c, hc, rfl⟩ := List.mem_map.mp hk
    exact (h.placed_of_mem_nodes hn).child_slot_lt hc
  compile n hn := by
    have hplaced := h.placed_of_mem_nodes hn
    obtain ⟨-, _, hcompiled⟩ := Schema.compile_compiled h.coherent hplaced
    have hone : ∀ t ∈ [n], t.Placed owner s.store.next := by simpa using hplaced
    obtain ⟨⟨built, honce, hbuilt, hturns⟩, -⟩ := worksOff hs hone
    refine ⟨built, honce, fun k => ?_, hturns⟩
    have hpopulated : (Schema.compileAll [n] s.store).populated k ↔
        s.store.populated k ∨ ∃ m ∈ n.nodes, m.slot = k := hcompiled.populated_iff k
    rw [hbuilt, hpopulated]
    refine and_congr_right fun hempty => ?_
    simp [hempty]
  step st := by
    obtain ⟨hworks, -⟩ := worksOff hs (h.placed_asks st)
    refine ⟨_, hworks, ?_⟩
    rcases h.store_step dialect st with hstore | ⟨hasks, owner', hextends⟩
    · rw [hstore]
      exact ⟨rfl, fun _ _ => rfl⟩
    · rw [hasks]
      exact ⟨hextends.history_eq, fun k hk => hextends.populated_eq hk⟩

/-- What the builds of a run come to. -/
structure CompilesOnce (dialect : PatternDialect) (steps : List Step) : Prop where
  /-- One heap serves all moments of the run. -/
  turns : ∃ heap : Heap, ∀ i, CompilesInTurns heap dialect (reached dialect (steps.take i))
  /-- In the whole run the build of a slot begins once at most, so no build begins while it is under
      way. -/
  once : ∀ k, (reached dialect steps).store.history.count (.began k) ≤ 1
  /-- No build is left under way, and none begins in a slot that is full. -/
  settled : ∀ k, .began k ∈ (reached dialect steps).store.history →
    (reached dialect steps).store.populated k

/-- **Builds.** Every compilation of every run comes to its end, and builds no slot twice. -/
theorem compiles_once_throughout_runs (dialect : PatternDialect) (steps : List Step) :
    CompilesOnce dialect steps := by
  have hbuilt := builtOnce_reached dialect steps
  refine ⟨?_, fun k => ?_, fun k hk => hbuilt.settled k ?_⟩
  · obtain ⟨owner, -, hall⟩ := sound_start.run dialect steps
    exact ⟨owner.heap, fun i => (hall i).compilesInTurns (builtOnce_reached dialect _) dialect⟩
  · rw [← count_begun]
    exact List.nodup_iff_count_le_one.mp hbuilt.once k
  · exact mem_begun.mpr hk

/-- Objects with two fields each, which are the same object one storey below. -/
def storeysRun : List Step :=
  [.define "a" (.string none none none),
    .define "b" (.object [("x", .share "a"), ("y", .share "a")]),
    .define "c" (.object [("x", .share "b"), ("y", .share "b")]),
    .define "d" (.object [("x", .share "c"), ("y", .share "c")])]

/-- There are eight ways down from the last object to the string, and fifteen nodes on them, but only
    four slots. -/
theorem compiles_once_storeys : ∃ n ∈ (reached noPatterns storeysRun).nodes,
    n.nodes.length = 15 ∧ ∃ heap built, built.Nodup ∧
      (∀ k, k ∈ built ↔ (reached noPatterns storeysRun).store.populated k = false ∧
        ∃ m ∈ n.nodes, m.slot = k) ∧
      turns? heap (1 + buildTurns heap built)
          ((reached noPatterns storeysRun).store.agenda [.ask n.slot]) =
        some ((n.compile (reached noPatterns storeysRun).store).2.agenda []) ∧
      ∀ m a, turns? heap m ((reached noPatterns storeysRun).store.agenda [.ask n.slot]) = some a →
        ¬a.Deadlocked heap := by
  have hn := List.mem_of_getElem? (l := (reached noPatterns storeysRun).nodes) (i := 11) rfl
  obtain ⟨heap, hturns⟩ := (compiles_once_throughout_runs noPatterns storeysRun).turns
  exact ⟨_, hn, rfl, heap, (hturns 4).compile _ hn⟩

end Session

end JsonValidation
