import JsonValidation.Proofs.HistoryOutcomes
import JsonValidation.Proofs.SameOutcomes

/-!
# Laws of wrappers

Accepting absence and accepting null are two things that do not get in each other's way: the order in
which a schema is wrapped does not matter, and neither does wrapping it twice. Only the outputs, which
have a layer for each wrapper, tell the difference, so the laws are about the values that outputs stand
for. Pipes can be grouped in any way, and a refinement of a pipe is one of its last stage; here the
outputs are the same as well.

* `Routine.values_optional_some`, `Routine.values_nullable_of_ne`: what a wrapper leaves to the routine
  that it wraps.
* `Routine.pipe_assoc`, `Routine.refinement_pipe`: stages that are grouped differently.
* `Schema.WrapperLaws`, `wrapper_laws`: the laws of wrapped schemas, run in any way.
-/

namespace JsonValidation

namespace Routine

variable {r : Routine} {input : Option Value}

/-! ## Absence and null -/

theorem accepts_iff_values (r : Routine) (input : Option Value) (path : Path) :
    (∃ o, r input path = .ok o) ↔ ∃ v, r.values input path = .ok v := by
  rw [values]
  cases r input path <;> simp [Except.map]

theorem values_optional_none (r : Routine) (path : Path) : (optional r).values none path = .ok none :=
  rfl

theorem values_optional_some (r : Routine) (v : Value) (path : Path) :
    (optional r).values (some v) path = r.values (some v) path := by
  rw [values, values, optional]
  cases r (some v) path <;> rfl

theorem values_nullable_null (r : Routine) (path : Path) :
    (nullable r).values (some .null) path = .ok (some .null) := rfl

theorem values_nullable_of_ne (r : Routine) (h : input ≠ some .null) (path : Path) :
    (nullable r).values input path = r.values input path := by
  have hinner : nullable r input path = (r input path).map .present := by
    rw [nullable.eq_def]
    split
    · exact absurd rfl h
    · rfl
  rw [values, values, hinner]
  cases r input path <;> rfl

/-- The inputs that the wrappers look at are different ones, so it does not matter which wrapper is the
    outer one. -/
theorem values_nullable_optional (r : Routine) :
    (nullable (optional r)).values = (optional (nullable r)).values := by
  funext input path
  cases input with
  | none =>
    have habsent : none ≠ some Value.null := nofun
    rw [values_nullable_of_ne _ habsent, values_optional_none, values_optional_none]
  | some v =>
    rw [values_optional_some]
    by_cases hnull : some v = some .null
    · rw [hnull, values_nullable_null, values_nullable_null]
    · rw [values_nullable_of_ne _ hnull, values_nullable_of_ne _ hnull, values_optional_some]

theorem values_optional_optional (r : Routine) : (optional (optional r)).values = (optional r).values := by
  funext input path
  cases input with
  | none => rw [values_optional_none, values_optional_none]
  | some v => rw [values_optional_some]

theorem values_nullable_nullable (r : Routine) : (nullable (nullable r)).values = (nullable r).values := by
  funext input path
  by_cases hnull : input = some .null
  · rw [hnull, values_nullable_null, values_nullable_null]
  · rw [values_nullable_of_ne _ hnull]

/-! ## Stages -/

/-- Only the last stage of a pipe has an output that is not turned into a value, however the stages are
    grouped. -/
theorem pipe_assoc (first second third : Routine) :
    pipe (pipe first second) third = pipe first (pipe second third) := by
  funext input path
  rw [pipe, values, pipe, pipe]
  cases first.values input path with
  | error f => rfl
  | ok v =>
    show (second v path).map Output.toValue? >>= _ = pipe second third v path
    rw [pipe, values]

/-- The output that a refinement of a pipe looks at is that of the second stage. -/
theorem refinement_pipe (first second : Routine) (accepts : Output → Bool) (message : String) :
    refinement (pipe first second) accepts message = pipe first (refinement second accepts message) := by
  funext input path
  rw [refinement, pipe, pipe]
  cases first.values input path <;> rfl

end Routine

namespace Schema

/-! ## Wrapped schemas -/

theorem interpret_asOptional (s : Schema) (σ : Store) :
    (s.asOptional σ).1.interpret = Routine.optional s.interpret := by
  rw [← interpret_copy s σ, routine_optional]
  rfl

theorem interpret_asNullable (s : Schema) (σ : Store) :
    (s.asNullable σ).1.interpret = Routine.nullable s.interpret := by
  rw [← interpret_copy s σ, routine_nullable]
  rfl

theorem interpret_refine (s : Schema) (accepts : Output → Bool) (message : String) (σ : Store) :
    (s.refine accepts message σ).1.interpret = Routine.refinement s.interpret accepts message := by
  rw [← interpret_copy s σ, routine_refinement]
  rfl

theorem interpret_pipeTo (s next : Schema) (σ : Store) :
    (s.pipeTo next σ).1.interpret = Routine.pipe s.interpret next.interpret := by
  rw [← interpret_copy s σ, routine_pipe]
  rfl

/-- The laws of wrapped schemas, in whatever stores they are wrapped and whichever way they are run. -/
structure WrapperLaws : Prop where
  /-- Absence and null can be accepted in either order, -/
  optional_nullable : ∀ (s : Schema) σ τ σ' τ',
    ((s.asOptional σ).1.asNullable τ).1.SameValues ((s.asNullable σ').1.asOptional τ').1
  /-- and accepting them once is enough. -/
  optional_optional : ∀ (s : Schema) σ τ σ',
    ((s.asOptional σ).1.asOptional τ).1.SameValues (s.asOptional σ').1
  nullable_nullable : ∀ (s : Schema) σ τ σ',
    ((s.asNullable σ).1.asNullable τ).1.SameValues (s.asNullable σ').1
  /-- An optional schema accepts absence and what the schema accepts. -/
  optional_accepts : ∀ (s : Schema) σ r r', (s.asOptional σ).1.RunBy r → s.RunBy r' → ∀ input path,
    (∃ o, r input path = .ok o) ↔ input = none ∨ ∃ o, r' input path = .ok o
  /-- Absence has no value, and all other inputs have the outcomes of the schema. -/
  optional_values : ∀ (s : Schema) σ r r', (s.asOptional σ).1.RunBy r → s.RunBy r' → ∀ path,
    r.values none path = .ok none ∧ ∀ v, r.values (some v) path = r'.values (some v) path
  /-- A nullable schema accepts null and what the schema accepts. -/
  nullable_accepts : ∀ (s : Schema) σ r r', (s.asNullable σ).1.RunBy r → s.RunBy r' → ∀ input path,
    (∃ o, r input path = .ok o) ↔ input = some .null ∨ ∃ o, r' input path = .ok o
  /-- Null has itself as its value, and all other inputs have the outcomes of the schema. -/
  nullable_values : ∀ (s : Schema) σ r r', (s.asNullable σ).1.RunBy r → s.RunBy r' → ∀ path,
    r.values (some .null) path = .ok (some .null) ∧
      ∀ input, input ≠ some .null → r.values input path = r'.values input path
  /-- Pipes can be grouped in any way. -/
  pipe_pipe : ∀ (a b c : Schema) σ τ σ' τ',
    ((a.pipeTo b σ).1.pipeTo c τ).1.SameOutcomes (a.pipeTo (b.pipeTo c σ').1 τ').1
  /-- A pipe is refined where its last stage is. -/
  pipe_refine : ∀ (a b : Schema) accepts message σ τ σ' τ',
    ((a.pipeTo b σ).1.refine accepts message τ).1.SameOutcomes
      (a.pipeTo (b.refine accepts message σ').1 τ').1

/-- **Wrappers.** Wrappers that accept absence or null commute and are idempotent, pipes are associative,
    and a refinement can be moved into the last stage of a pipe. -/
theorem wrapper_laws : WrapperLaws where
  optional_nullable s σ τ σ' τ' := by
    refine .of_values_eq ?_
    rw [interpret_asNullable, interpret_asOptional, interpret_asOptional, interpret_asNullable,
      Routine.values_nullable_optional]
  optional_optional s σ τ σ' := by
    refine .of_values_eq ?_
    rw [interpret_asOptional, interpret_asOptional, interpret_asOptional,
      Routine.values_optional_optional]
  nullable_nullable s σ τ σ' := by
    refine .of_values_eq ?_
    rw [interpret_asNullable, interpret_asNullable, interpret_asNullable,
      Routine.values_nullable_nullable]
  optional_accepts s σ r r' hr hr' input path := by
    rw [Routine.accepts_iff_values, Routine.accepts_iff_values, hr.eq_interpret, hr'.eq_interpret,
      interpret_asOptional]
    cases input with
    | none => exact iff_of_true ⟨none, Routine.values_optional_none _ path⟩ (.inl rfl)
    | some v =>
      rw [Routine.values_optional_some]
      exact ⟨.inr, fun h => h.resolve_left nofun⟩
  optional_values s σ r r' hr hr' path := by
    rw [hr.eq_interpret, hr'.eq_interpret, interpret_asOptional]
    exact ⟨Routine.values_optional_none _ path, fun v => Routine.values_optional_some _ v path⟩
  nullable_accepts s σ r r' hr hr' input path := by
    rw [Routine.accepts_iff_values, Routine.accepts_iff_values, hr.eq_interpret, hr'.eq_interpret,
      interpret_asNullable]
    by_cases hnull : input = some .null
    · subst hnull
      exact iff_of_true ⟨some .null, Routine.values_nullable_null _ path⟩ (.inl rfl)
    · rw [Routine.values_nullable_of_ne _ hnull]
      exact ⟨.inr, fun h => h.resolve_left hnull⟩
  nullable_values s σ r r' hr hr' path := by
    rw [hr.eq_interpret, hr'.eq_interpret, interpret_asNullable]
    exact ⟨Routine.values_nullable_null _ path, fun input hne => Routine.values_nullable_of_ne _ hne path⟩
  pipe_pipe a b c σ τ σ' τ' := by
    refine .of_interpret_eq ?_
    rw [interpret_pipeTo, interpret_pipeTo, interpret_pipeTo, interpret_pipeTo, Routine.pipe_assoc]
  pipe_refine a b accepts message σ τ σ' τ' := by
    refine .of_interpret_eq ?_
    rw [interpret_refine, interpret_pipeTo, interpret_pipeTo, interpret_refine, Routine.refinement_pipe]

/-- A text that may be absent and null, wrapped in both orders and compiled in one of them. -/
def wrappedRun : List Session.Step :=
  [.define "text" (.string (some 1) none none),
    .define "inner" (.nullable (.optional (.share "text"))),
    .compile "inner",
    .define "outer" (.optional (.nullable (.share "text")))]

open Session (reached noPatterns) in
/-- Null has another output if absence is accepted by the outer wrapper, but always the same value. -/
theorem wrapper_laws_text : ∃ inner ∈ (reached noPatterns wrappedRun).nodes,
    ∃ outer ∈ (reached noPatterns wrappedRun).nodes,
      (∀ input path,
        (inner.validate input path (reached noPatterns wrappedRun).store).1.map Output.toValue? =
          (outer.validate input path (reached noPatterns wrappedRun).store).1.map Output.toValue?) ∧
      (inner.validate (some .null) .root (reached noPatterns wrappedRun).store).1 = .ok .null ∧
      (outer.validate (some .null) .root (reached noPatterns wrappedRun).store).1 =
        .ok (.present .null) ∧
      (inner.validate (some (.string "")) .root (reached noPatterns wrappedRun).store).1 =
        .error ⟨.root, .lengthOutOfBounds, "String must be at least 1 characters",
          some (.string "")⟩ := by
  have hinner := List.mem_of_getElem? (l := (reached noPatterns wrappedRun).nodes) (i := 1) rfl
  have houter := List.mem_of_getElem? (l := (reached noPatterns wrappedRun).nodes) (i := 4) rfl
  refine ⟨_, hinner, _, houter, ?_, rfl, rfl, rfl⟩
  exact wrapper_laws.optional_nullable (.shared .direct (string 0 (.ofOptions { minLen := some 1 })))
    { next := 1 } { next := 2 } { next := 4 } { next := 5 } _ _ (.of_mem_nodes hinner)
    (.of_mem_nodes houter)

end Schema

end JsonValidation
