import JsonValidation.Proofs.ByteOrder
import JsonValidation.Proofs.Sessions

/-!
# Registries as maps

No name has two entries in a registry, so its entries are a map from names to schemas. The names that
a registry reports are the keys of this map in the order of their bytes, in whatever order the entries
are enumerated. Registration is the only step that changes a registry.

* `Registry.Distinct`: no name has two entries.
* `Distinct.get?_eq_some_iff`: looking a name up finds its entry.
* `Distinct.names_increasing`, `mem_names`, `mergeSort_eq_names`: the names that are reported.
* `Session.registry_step`: what a step does to the registry.
* `Session.step_register`, `step_get_of_some` and the like: what a registry replies.
* `Session.get?_step`: what is found after a step.
-/

namespace JsonValidation

namespace Registry

variable {r : Registry} {name other : String} {schema : Schema}

/-- No name has two entries. -/
def Distinct (r : Registry) : Prop := (r.entries.map Prod.fst).Nodup

theorem distinct_empty : Distinct {} := List.nodup_nil

theorem get?_eq_none_iff : r.get? name = none ↔ name ∉ r.entries.map Prod.fst := by
  rw [get?, List.lookup_eq_none_iff]
  simp only [List.mem_map, not_exists, not_and, bne_iff_ne, ne_eq]
  exact ⟨fun h e he heq => h e he heq.symm, fun h e he heq => h e he heq.symm⟩

/-- Looking a name up finds its entry. -/
theorem Distinct.get?_eq_some_iff (h : r.Distinct) :
    r.get? name = some schema ↔ (name, schema) ∈ r.entries := by
  refine ⟨mem_entries_of_get?, fun hmem => ?_⟩
  obtain ⟨early, late, heq⟩ := List.append_of_mem hmem
  refine List.lookup_eq_some_iff.mpr ⟨early, late, heq, fun e he => ?_⟩
  -- an earlier entry has another name, as no name occurs twice
  rw [Distinct, heq, List.map_append, List.nodup_append] at h
  rw [bne_iff_ne]
  exact (h.2.2 e.1 (List.mem_map_of_mem he) name (by simp)).symm

/-- Looking up the names of any entries finds the schemas of these entries. -/
theorem Distinct.filterMap_get? (h : r.Distinct) (order : List (String × Schema))
    (horder : ∀ e ∈ order, e ∈ r.entries) :
    (order.map Prod.fst).filterMap r.get? = order.map Prod.snd := by
  induction order with
  | nil => rfl
  | cons first rest ih =>
    obtain ⟨hfirst, hrest⟩ := List.forall_mem_cons.mp horder
    have hget : r.get? first.1 = some first.2 := h.get?_eq_some_iff.mpr hfirst
    rw [List.map_cons, List.filterMap_cons_some hget, ih hrest, List.map_cons]

/-! ## Registration -/

/-- The registry with one more entry. -/
def add (r : Registry) (name : String) (schema : Schema) : Registry :=
  ⟨r.entries ++ [(name, schema)]⟩

theorem register_of_none (h : r.get? name = none) :
    r.register name schema = .ok (r.add name schema) := by
  rw [register, h, add]

theorem register_of_some {old : Schema} (h : r.get? name = some old) :
    r.register name schema = .error (.duplicateName name) := by
  rw [register, h]

theorem get?_add (h : r.get? name = none) :
    (r.add name schema).get? other = if other = name then some schema else r.get? other := by
  rw [add, get?, List.lookup_append, ← get?]
  split
  · rename_i heq
    rw [heq, h]
    simp
  · rename_i hne
    rw [List.lookup_cons, beq_false_of_ne hne]
    simp

theorem Distinct.add (h : r.Distinct) (hname : r.get? name = none) :
    (r.add name schema).Distinct := by
  rw [get?_eq_none_iff] at hname
  rw [Distinct, Registry.add, List.map_append, List.nodup_append]
  refine ⟨h, by simp, fun a ha b hb heq => ?_⟩
  obtain rfl := List.mem_singleton.mp hb
  exact hname (heq ▸ ha)

/-! ## Names -/

theorem nameLe_iff {a b : String} : nameLe a b = true ↔ ¬b < a := by
  simp [nameLe]

/-- Sorting leaves no name before a smaller one. -/
theorem pairwise_mergeSort_nameLe (keys : List String) :
    (keys.mergeSort nameLe).Pairwise fun a b => ¬b < a := by
  simp only [← nameLe_iff]
  refine List.pairwise_mergeSort (fun a b c hab hbc => ?_) (fun a b => ?_) keys
  · rw [nameLe_iff, String.not_lt] at *
    exact String.le_trans hab hbc
  · rw [Bool.or_eq_true, nameLe_iff, nameLe_iff, String.not_lt, String.not_lt]
    exact String.le_total a b

/-- The order in which the entries are enumerated does not show in the names. -/
theorem mergeSort_eq_names {keys : List String} (h : keys.Perm (r.entries.map Prod.fst)) :
    keys.mergeSort nameLe = r.names := by
  refine List.Perm.eq_of_pairwise (fun a b _ _ hab hba => ?_) (pairwise_mergeSort_nameLe keys)
    (pairwise_mergeSort_nameLe _) ?_
  · exact String.le_antisymm (String.not_lt.mp hab) (String.not_lt.mp hba)
  · exact ((List.mergeSort_perm keys nameLe).trans h).trans (List.mergeSort_perm _ nameLe).symm

/-- The names are strictly increasing in the order of their bytes. -/
theorem Distinct.names_increasing (h : r.Distinct) :
    r.names.Pairwise fun a b => Text.bytes a < Text.bytes b := by
  have hnodup : r.names.Nodup := (List.mergeSort_perm _ nameLe).nodup_iff.mpr h
  refine List.Pairwise.imp₂ (fun a b hle hne => ?_) (pairwise_mergeSort_nameLe _) hnodup
  rw [Text.bytes_lt_iff]
  by_cases hlt : a < b
  · exact hlt
  · exact absurd (String.le_antisymm (String.not_lt.mp hle) (String.not_lt.mp hlt)) hne

theorem mem_names : name ∈ r.names ↔ ∃ schema, r.get? name = some schema := by
  rw [names, (List.mergeSort_perm _ _).mem_iff, ← Option.isSome_iff_exists,
    Option.isSome_iff_ne_none, ne_eq, get?_eq_none_iff, Decidable.not_not]

theorem length_names : r.names.length = r.size := by
  rw [names, List.length_mergeSort, List.length_map, size]

theorem isEmpty_names : r.names.isEmpty = r.isEmpty := by
  rw [Bool.eq_iff_iff, isEmpty, List.isEmpty_iff_length_eq_zero, List.isEmpty_iff_length_eq_zero,
    length_names, size]

end Registry

namespace Session

variable {s : Session} {dialect : PatternDialect} {name : String} {schema : Schema} {σ : Store}
  {blueprint : Blueprint}

/-! ## Steps -/

theorem registry_withSchema {act : Schema → Session × Reply}
    (hact : ∀ schema, (act schema).1.registry = s.registry) :
    (s.withSchema name act).1.registry = s.registry := by
  unfold Session.withSchema
  split
  · exact hact _
  · rfl

/-- The registration of a schema that can be built is accepted when the name is not taken, and refused
    without any effect otherwise. -/
theorem step_register (hbuild : blueprint.build (s.surroundings dialect) s.store = .ok (schema, σ)) :
    s.step dialect (.register name blueprint) =
      match s.registry.get? name with
      | some _ => (s, .failed (.registry (.duplicateName name)))
      | none => ({ s with store := σ, registry := s.registry.add name schema },
          namesReply (s.registry.add name schema)) := by
  rw [step, hbuild]
  cases hname : s.registry.get? name with
  | some old => simp only [Registry.register_of_some hname]
  | none => simp only [Registry.register_of_none hname]

/-- What a step does to the registry: nothing, unless it registers a schema under a new name. -/
theorem registry_step (dialect : PatternDialect) (s : Session) (st : Step) :
    (s.step dialect st).1.registry = s.registry ∨
      ∃ name blueprint schema σ, st = .register name blueprint ∧
        blueprint.build (s.surroundings dialect) s.store = .ok (schema, σ) ∧
        s.registry.get? name = none ∧
        (s.step dialect st).1.registry = s.registry.add name schema := by
  cases st with
  | register name blueprint =>
    cases hbuild : blueprint.build (s.surroundings dialect) s.store with
    | error e =>
      left
      rw [step, hbuild]
    | ok made =>
      obtain ⟨schema, σ⟩ := made
      rw [step_register hbuild]
      cases hname : s.registry.get? name with
      | some old => exact .inl rfl
      | none => exact .inr ⟨name, blueprint, schema, σ, rfl, hbuild, hname, rfl⟩
  | define name blueprint =>
    left
    rw [step]
    split <;> rfl
  | pick name source directions =>
    refine .inl (registry_withSchema fun schema => ?_)
    split <;> rfl
  | describe name directions =>
    refine .inl (registry_withSchema fun schema => ?_)
    split <;> rfl
  | get name =>
    left
    rw [step]
    split <;> rfl
  | validateRegistered name value =>
    left
    rw [step]
    split <;> rfl
  | names | warm order => exact .inl rfl
  | _ => exact .inl (registry_withSchema fun schema => rfl)

theorem step_get_of_some (hname : s.registry.get? name = some schema) :
    s.step dialect (.get name) = (s, .described (summary schema s.store)) := by
  rw [step, hname]

theorem step_get_of_none (hname : s.registry.get? name = none) :
    s.step dialect (.get name) = (s, .missing) := by
  rw [step, hname]

theorem step_validateRegistered_of_none {value : Value} (hname : s.registry.get? name = none) :
    s.step dialect (.validateRegistered name value) =
      (s, .failed (.registry (.schemaNotFound name))) := by
  rw [step, Registry.validate, hname]

/-- What is found after a step is what was found before and what the step registers. -/
theorem get?_step (dialect : PatternDialect) (s : Session) (st : Step) :
    (s.step dialect st).1.registry.get? name = some schema ↔
      s.registry.get? name = some schema ∨
      ∃ blueprint σ, st = .register name blueprint ∧
        blueprint.build (s.surroundings dialect) s.store = .ok (schema, σ) ∧
        s.registry.get? name = none := by
  constructor
  · intro hget
    rcases registry_step dialect s st with heq | ⟨key, blueprint, new, σ, rfl, hbuild, hnone, heq⟩
    · exact .inl (heq ▸ hget)
    · rw [heq, Registry.get?_add hnone] at hget
      by_cases hkey : name = key
      · rw [if_pos hkey] at hget
        obtain rfl := Option.some.inj hget
        subst hkey
        exact .inr ⟨blueprint, σ, rfl, hbuild, hnone⟩
      · rw [if_neg hkey] at hget
        exact .inl hget
  · rintro (hold | ⟨blueprint, σ, rfl, hbuild, hnone⟩)
    · rcases registry_step dialect s st with heq | ⟨key, _, _, _, -, -, hnone, heq⟩
      · rwa [heq]
      · -- a name that is taken is not the one that is new
        have hkey : name ≠ key := by
          rintro rfl
          rw [hold] at hnone
          cases hnone
        rwa [heq, Registry.get?_add hnone, if_neg hkey]
    · rw [step_register hbuild, hnone]
      exact (Registry.get?_add hnone).trans (if_pos rfl)

/-- The registration of a schema that can be built succeeds if and only if the name is new. -/
theorem step_register_succeeds_iff
    (hbuild : blueprint.build (s.surroundings dialect) s.store = .ok (schema, σ)) :
    (∀ e, (s.step dialect (.register name blueprint)).2 ≠ .failed e) ↔
      s.registry.get? name = none := by
  rw [step_register hbuild]
  cases hname : s.registry.get? name with
  | some old =>
    constructor
    · exact fun h => absurd rfl (h _)
    · exact fun h => nomatch h
  | none =>
    constructor
    · exact fun _ => rfl
    · exact fun _ e h => nomatch h

theorem distinct_step (h : s.registry.Distinct) (dialect : PatternDialect) (st : Step) :
    (s.step dialect st).1.registry.Distinct := by
  rcases registry_step dialect s st with heq | ⟨name, -, schema, -, -, -, hname, heq⟩
  · rwa [heq]
  · rw [heq]
    exact h.add hname

theorem distinct_run (dialect : PatternDialect) (steps : List Step) :
    ∀ {s : Session}, s.registry.Distinct → (s.run dialect steps).1.registry.Distinct := by
  induction steps with
  | nil => exact fun h => h
  | cons first rest ih => exact fun h => ih (distinct_step h dialect first)

theorem distinct_reached (dialect : PatternDialect) (steps : List Step) :
    (reached dialect steps).registry.Distinct :=
  distinct_run dialect steps Registry.distinct_empty

end Session

end JsonValidation
