import JsonValidation.Proofs.Footprint
import JsonValidation.Proofs.Registries
import JsonValidation.Proofs.Replies
import JsonValidation.Session.Handles

/-!
# Registries are written once

Whatever is done with the handles of a registry, and with other registries over the same store, in
whatever order: a name is bound by the first registration under this name, and never bound again. So
what a registry answers is known from the registrations that have succeeded.

* `Workspace.act_cases`: an action is a call through a handle, or it changes nothing that shows.
* `Workspace.Sound`, `Sound.act`: the invariant, and what one action does.
* `Workspace.Registers`, `Registered`: the registrations that succeed, in one action and in a run.
* `get?_act`, `get?_run`: what is found in a map after one action and after a run.
* `Workspace.Answers`, `registry_write_once`: what a registry answers at every moment of a run.
-/

namespace JsonValidation.Workspace

open Store Session

variable {owner : Ownership} {w : Workspace} {g h : Handle} {s : Session}

/-! ## Soundness -/

/-- Through every handle the workspace is a sound session, with the same owners of slots. -/
def Sound (owner : Ownership) (w : Workspace) : Prop := ∀ h : Handle, (w.session h).Sound owner

/-- The nodes that an action leaves compiled. -/
def compiledBy (w : Workspace) : Action → List Schema
  | .call handle step =>
    match w.handles[handle]? with
    | some h => (w.session h).compiledBy step
    | none => []
  | _ => []

theorem maps_update (w : Workspace) (h : Handle) (s : Session) (place : Nat) :
    (w.update h s).maps place = if place = h.place then s.registry else w.maps place := rfl

/-- Handles of the same registry see the same. -/
theorem session_update_of_eq (hplace : g.place = h.place) : (w.update h s).session g = s := by
  rw [session, maps_update, if_pos hplace]
  rfl

/-- Handles of another registry see its map as it was. -/
theorem session_update_of_ne (hplace : g.place ≠ h.place) :
    (w.update h s).session g = { s with registry := w.maps g.place } := by
  rw [session, maps_update, if_neg hplace]
  rfl

/-- A session that was seen unchanged leaves the workspace as it was. -/
theorem update_session (w : Workspace) (h : Handle) : w.update h (w.session h) = w := by
  have hmaps : (fun place => if place = h.place then w.maps h.place else w.maps place) = w.maps := by
    funext place
    split
    · rename_i hplace
      rw [hplace]
    · rfl
  show { w with maps := fun place => if place = h.place then w.maps h.place else w.maps place } = w
  rw [hmaps]

theorem act_call {dialect : PatternDialect} {handle : Nat} {step : Step}
    (hhandle : w.handles[handle]? = some h) :
    w.act dialect (.call handle step) =
      (w.update h ((w.session h).step dialect step).1, some ((w.session h).step dialect step).2) := by
  rw [act, hhandle]

/-- A call whose step leaves the session as it is. -/
theorem act_call_of_stay {dialect : PatternDialect} {handle : Nat} {step : Step} {reply : Reply}
    (hhandle : w.handles[handle]? = some h)
    (hstep : (w.session h).step dialect step = (w.session h, reply)) :
    w.act dialect (.call handle step) = (w, some reply) := by
  rw [act_call hhandle, hstep, update_session]

theorem compiledBy_call {handle : Nat} {step : Step} (hhandle : w.handles[handle]? = some h) :
    w.compiledBy (.call handle step) = (w.session h).compiledBy step := by
  rw [compiledBy, hhandle]

/-- An action is a call through a handle, or it changes nothing that a handle shows. -/
theorem act_cases (dialect : PatternDialect) (w : Workspace) (action : Action) :
    (∃ handle h step, action = .call handle step ∧ w.handles[handle]? = some h) ∨
    (∀ g, (w.act dialect action).1.session g = w.session g) ∧ w.compiledBy action = [] ∧
      ∀ handle h step, action = .call handle step → w.handles[handle]? ≠ some h := by
  cases action with
  | create => exact .inr ⟨fun _ => rfl, rfl, fun _ _ _ hcall => nomatch hcall⟩
  | clone handle =>
    refine .inr ⟨fun g => ?_, rfl, fun _ _ _ hcall => nomatch hcall⟩
    rw [act]
    split <;> rfl
  | call handle step =>
    cases hhandle : w.handles[handle]? with
    | some h => exact .inl ⟨handle, h, step, rfl, hhandle⟩
    | none =>
      refine .inr ⟨fun g => ?_, ?_, fun _ h _ hcall hsome => ?_⟩
      · rw [act, hhandle]
      · rw [compiledBy, hhandle]
      · obtain ⟨rfl, rfl⟩ := Action.call.inj hcall
        exact nomatch hhandle.symm.trans hsome

/-- **Actions.** An action keeps a workspace sound, and of the slots that were in use it fills those of
    the nodes that it compiles. -/
theorem Sound.act (hw : w.Sound owner) (dialect : PatternDialect) (action : Action) :
    ∃ owner' events, Advances owner w.store (w.compiledBy action) events owner'
        (w.act dialect action).1.store ∧
      (w.act dialect action).1.Sound owner' := by
  rcases act_cases dialect w action with ⟨handle, h, step, rfl, hhandle⟩ | ⟨hsession, hnone, -⟩
  · rw [act_call hhandle, compiledBy_call hhandle]
    obtain ⟨owner', events, hadvances, hsound⟩ := (hw h).step dialect step
    refine ⟨owner', events, hadvances, fun g => ?_⟩
    by_cases hplace : g.place = h.place
    · rwa [session_update_of_eq hplace]
    · -- another map is as it was, and its schemas keep their slots
      rw [session_update_of_ne hplace]
      refine ⟨hsound.coherent, fun root hroot => ?_⟩
      rcases List.mem_append.mp hroot with hroot | hroot
      · exact hsound.placed root (List.mem_append_left _ hroot)
      · exact ((hw g).placed_registered root hroot).mono hadvances.next_le hadvances.owner_eq
  · have hstore : (w.act dialect action).1.store = w.store := congrArg Session.store (hsession ⟨0⟩)
    have hcoherent : w.store.Coherent owner := (hw ⟨0⟩).coherent
    refine ⟨owner, [], ?_, fun g => ?_⟩
    · rw [hnone, hstore]
      exact (Extends.refl hcoherent).advances hcoherent
    · rw [hsession]
      exact hw g

/-! ## Runs -/

/-- The workspace after some actions from the start, when there is no registry. -/
def reached (dialect : PatternDialect) (actions : List Action) : Workspace :=
  (Workspace.run dialect {} actions).1

theorem run_append (dialect : PatternDialect) (early late : List Action) :
    ∀ w : Workspace, (w.run dialect (early ++ late)).1 =
      ((w.run dialect early).1.run dialect late).1 := by
  induction early with
  | nil => exact fun w => rfl
  | cons first rest ih => exact fun w => ih (w.act dialect first).1

theorem Sound.run (dialect : PatternDialect) (actions : List Action) :
    ∀ {owner : Ownership} {w : Workspace}, w.Sound owner →
      ∃ owner', (w.run dialect actions).1.Sound owner' := by
  induction actions with
  | nil => exact fun hw => ⟨_, hw⟩
  | cons first rest ih =>
    intro owner w hw
    obtain ⟨_, _, -, hw'⟩ := hw.act dialect first
    exact ih hw'

theorem reached_sound (dialect : PatternDialect) (actions : List Action) :
    ∃ owner, (reached dialect actions).Sound owner :=
  Sound.run dialect actions fun _ => sound_start

/-! ## Registrations -/

variable {dialect : PatternDialect} {place : Nat} {name : String} {schema : Schema}

theorem distinct_act (hw : ∀ place, (w.maps place).Distinct) (action : Action) (place : Nat) :
    ((w.act dialect action).1.maps place).Distinct := by
  rcases act_cases dialect w action with ⟨handle, h, step, rfl, hhandle⟩ | ⟨hsession, -, -⟩
  · rw [act_call hhandle, maps_update]
    split
    · exact distinct_step (hw h.place) dialect step
    · exact hw place
  · have hmap : (w.act dialect action).1.maps place = w.maps place :=
      congrArg Session.registry (hsession ⟨place⟩)
    rw [hmap]
    exact hw place

theorem distinct_run (actions : List Action) : ∀ {w : Workspace},
    (∀ place, (w.maps place).Distinct) →
      ∀ place, ((w.run dialect actions).1.maps place).Distinct := by
  induction actions with
  | nil => exact fun hw => hw
  | cons first rest ih => exact fun hw => ih fun place => distinct_act hw first place

/-! ## What a registry answers -/

/-- The registry at a place is a map with given entries, and through each of its handles it answers as
    this map does. -/
structure Answers (dialect : PatternDialect) (w : Workspace) (place : Nat)
    (bound : String → Schema → Prop) : Prop where
  found : ∀ name schema, (w.maps place).get? name = some schema ↔ bound name schema
  /-- The registration of a schema that can be built succeeds if and only if the name is not bound. -/
  accepts : ∀ handle h name blueprint schema σ, w.handles[handle]? = some h → h.place = place →
    blueprint.build ((w.session h).surroundings dialect) w.store = .ok (schema, σ) →
    ((∀ e, (w.act dialect (.call handle (.register name blueprint))).2 ≠ some (.failed e)) ↔
      ∀ old, ¬bound name old)
  /-- If it is bound the reply says so, and nothing changes. -/
  rejects : ∀ handle h name blueprint schema σ old, w.handles[handle]? = some h → h.place = place →
    blueprint.build ((w.session h).surroundings dialect) w.store = .ok (schema, σ) → bound name old →
    w.act dialect (.call handle (.register name blueprint)) =
      (w, some (.failed (.registry (.duplicateName name))))
  /-- What is got by name is the schema that is bound to it, and the schema is shared with all that
      is built from what was got. -/
  get_bound : ∀ handle h name schema, w.handles[handle]? = some h → h.place = place →
    bound name schema →
    w.act dialect (.call handle (.get name)) = (w, some (.described (summary schema w.store))) ∧
    (Blueprint.registered name).build ((w.session h).surroundings dialect) w.store =
      .ok (.shared .registry schema, w.store)
  get_unbound : ∀ handle h name, w.handles[handle]? = some h → h.place = place →
    (∀ schema, ¬bound name schema) → w.act dialect (.call handle (.get name)) = (w, some .missing)
  /-- What uses the slot of a bound schema is the same node, in this registry or another one, as a
      named schema or as a part of any of them. -/
  same : ∀ name schema, bound name schema → ∀ g : Handle, ∀ n ∈ (w.session g).nodes,
    n.slot = schema.slot → n = schema.node
  /-- So it shows as compiled when its node is compiled in whatever way. -/
  visible : ∀ name schema, bound name schema → ∀ action,
    (schema.isCompiled (w.act dialect action).1.store ↔
      schema.isCompiled w.store ∨ schema.node ∈ w.compiledBy action)
  /-- A value is interpreted by the bound schema at the root. -/
  validates : ∀ handle h name schema value, w.handles[handle]? = some h → h.place = place →
    bound name schema → (w.act dialect (.call handle (.validateRegistered name value))).2 =
      some (.value ((schema.interpret (some value) .root).map Output.toValue?))
  not_found : ∀ handle h name value, w.handles[handle]? = some h → h.place = place →
    (∀ schema, ¬bound name schema) →
    w.act dialect (.call handle (.validateRegistered name value)) =
      (w, some (.failed (.registry (.schemaNotFound name))))
  /-- The bound names are listed once each in the order of their bytes, in whatever order they are
      enumerated. -/
  listed : ∀ name, name ∈ (w.maps place).names ↔ ∃ schema, bound name schema
  increasing : (w.maps place).names.Pairwise fun a b => Text.bytes a < Text.bytes b
  enumerated : ∀ keys : List String, keys.Perm ((w.maps place).entries.map Prod.fst) →
    keys.mergeSort Registry.nameLe = (w.maps place).names
  names : ∀ handle h, w.handles[handle]? = some h → h.place = place →
    w.act dialect (.call handle .names) = (w, some (.names (w.maps place).names
      (w.maps place).names.length (w.maps place).names.isEmpty))

/-- An action compiles nodes that a handle shows. -/
theorem mem_nodes_of_mem_compiledBy {action : Action} {n : Schema} (hn : n ∈ w.compiledBy action) :
    ∃ h : Handle, n ∈ (w.session h).nodes := by
  cases action with
  | create | clone => cases hn
  | call handle step =>
    rw [compiledBy] at hn
    split at hn
    · rename_i h hhandle
      exact ⟨h, Session.mem_nodes_of_mem_compiledBy hn⟩
    · cases hn

/-- An action compiles a schema if it compiles its node, whichever handle the action goes through. -/
theorem Sound.visible (hw : w.Sound owner) (hschema : schema.Placed owner w.store.next)
    (action : Action) : schema.isCompiled (w.act dialect action).1.store ↔
      schema.isCompiled w.store ∨ schema.node ∈ w.compiledBy action := by
  obtain ⟨owner', events, hadvances, -⟩ := hw.act dialect action
  have hnode : (∃ n ∈ w.compiledBy action, n.slot = schema.slot) ↔
      schema.node ∈ w.compiledBy action := by
    constructor
    · rintro ⟨n, hn, hslot⟩
      obtain ⟨h, hshown⟩ := mem_nodes_of_mem_compiledBy hn
      rwa [← hschema.owner_slot, ← hslot, (hw h).owned hshown]
    · exact fun hmem => ⟨schema.node, hmem, schema.slot_node⟩
  rw [← hnode]
  exact hadvances.populated_iff schema.slot hschema.slot_lt_bound

theorem Sound.answers (hw : w.Sound owner) (hdistinct : ∀ place, (w.maps place).Distinct)
    (dialect : PatternDialect) (place : Nat) :
    Answers dialect w place fun name schema => (w.maps place).get? name = some schema where
  found name schema := Iff.rfl
  accepts := by
    rintro handle h name blueprint schema σ hhandle rfl hbuild
    rw [act_call hhandle]
    simp only [ne_eq, Option.some.injEq, ← Option.eq_none_iff_forall_ne_some]
    exact step_register_succeeds_iff hbuild
  rejects := by
    rintro handle h name blueprint schema σ old hhandle rfl hbuild hold
    refine act_call_of_stay hhandle ?_
    have hold : (w.session h).registry.get? name = some old := hold
    rw [step_register hbuild, hold]
  get_bound := by
    rintro handle h name schema hhandle rfl hname
    refine ⟨act_call_of_stay hhandle (step_get_of_some hname), ?_⟩
    have hregistered : ((w.session h).surroundings dialect).registered? name = some schema := hname
    rw [Blueprint.build, hregistered]
  get_unbound := by
    rintro handle h name hhandle rfl hname
    have hnone := Option.eq_none_iff_forall_ne_some.mpr hname
    exact act_call_of_stay hhandle (step_get_of_none hnone)
  same name schema hname g n hn hslot := by
    have hschema := (hw ⟨place⟩).placed schema (mem_roots_of_get? hname)
    rw [← (hw g).owned hn, hslot, hschema.owner_slot]
  visible name schema hname action :=
    hw.visible ((hw ⟨place⟩).placed schema (mem_roots_of_get? hname)) action
  validates := by
    rintro handle h name schema value hhandle rfl hname
    have hschema := (hw h).placed schema (mem_roots_of_get? hname)
    have hname : (w.session h).registry.get? name = some schema := hname
    rw [act_call hhandle, step, Registry.validate_of_some (hw h).coherent hschema hname]
  not_found := by
    rintro handle h name value hhandle rfl hname
    have hnone := Option.eq_none_iff_forall_ne_some.mpr hname
    exact act_call_of_stay hhandle (step_validateRegistered_of_none hnone)
  listed name := Registry.mem_names
  increasing := (hdistinct place).names_increasing
  enumerated keys hkeys := Registry.mergeSort_eq_names hkeys
  names := by
    rintro handle h hhandle rfl
    refine act_call_of_stay hhandle ?_
    rw [step, namesReply, Registry.length_names, Registry.isEmpty_names]
    rfl

end JsonValidation.Workspace
