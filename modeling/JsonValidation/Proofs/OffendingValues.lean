import JsonValidation.Proofs.FailureSites

/-!
# Kinds of failures and offending values

A failure carries what the failed check has looked at. So its kind says something of its offending
value: what is missing is absent, a mismatch of types has a value of another type than the node at the
place of the failure expects, and a bound is only reported for a value that has one.

* `Failure.Fits`: what the kind of a failure says of its offending value.
* `Emits.fits`: all that a node finds itself is so.
* `failure_kinds_fit_values`: and so are all failures of a schema.
-/

namespace JsonValidation

/-- The kind and the offending value of a failure agree, when a node has found it. -/
structure Failure.Fits (f : Failure) (n : Schema) : Prop where
  missing : f.kind = .missingRequired → f.got = none
  absent : f.got = none →
    f.kind = .missingRequired ∨ f.kind = .unionExhausted ∨ f.kind = .refinementFailed
  null : f.kind = .nullNotAllowed → f.got = some .null
  /-- The value is not of the type that the node expects, so the usual text names two types. -/
  mismatch : f.kind = .typeMismatch → ∃ expected v, n.kind.expected? = some expected ∧
    f.got = some v ∧ v ≠ .null ∧ v.typeName ≠ expected ∧
    f.message = n.typeMessage?.getD ("Expected " ++ expected ++ ", received " ++ v.typeName)
  length : f.kind = .lengthOutOfBounds →
    (∃ text, f.got = some (.string text)) ∨ ∃ items, f.got = some (.array items)
  range : f.kind = .rangeOutOfBounds → ∃ x, f.got = some (.number x)
  sign : f.kind = .signViolated → ∃ x, f.got = some (.number x)
  pattern : f.kind = .patternMismatch → ∃ text, f.got = some (.string text)
  literal : f.kind = .literalMismatch → ∃ v, f.got = some v

namespace Schema

variable {n : Schema} {p : Path} {f : Failure}

/-- **Fitting values.** What a node finds itself has a kind that fits the offending value. -/
theorem Emits.fits (h : n.Emits p f) : f.Fits n := by
  cases h with
  | @typeCheck _ expected input _ _ hn hinput hf =>
    rcases typeFailure_eq_error hf with ⟨-, rfl⟩ | ⟨-, rfl⟩ | ⟨v, hnull, rfl, rfl⟩
    · constructor <;> simp
    · constructor <;> simp
    · have hother : v.typeName ≠ expected := hinput v rfl
      constructor <;> simp [hn, hnull, hother]
  | @string _ _ _ kind message _ hv =>
    have hkind : kind = .lengthOutOfBounds ∨ kind = .patternMismatch := by
      simpa using StringSettings.kind_mem_of_violation? hv
    rcases hkind with rfl | rfl <;> constructor <;> simp
  | @number _ _ _ kind message _ hv =>
    have hkind : kind = .rangeOutOfBounds ∨ kind = .signViolated := by
      simpa using NumberSettings.kind_mem_of_violation? hv
    rcases hkind with rfl | rfl <;> constructor <;> simp
  | @boolean _ _ _ kind message _ hv =>
    obtain rfl : kind = .literalMismatch := by
      simpa using BooleanSettings.kind_mem_of_violation? hv
    constructor <;> simp
  | @array _ _ _ _ kind message _ hv =>
    obtain rfl : kind = .lengthOutOfBounds := by
      simpa using ArraySettings.kind_mem_of_violation? hv
    constructor <;> simp
  | absent => constructor <;> simp
  | literal => constructor <;> simp
  | union => constructor <;> simp
  | refinement => constructor <;> simp

end Schema

/-- The failure is found by a node of a schema, at the end of a walk that continues a path, and its
    offending value fits its kind there. -/
def Failure.FitsBelow (f : Failure) (s : Schema) (p : Path) : Prop :=
  ∃ (r : Path) (n : Schema), s.Leads r.segments n ∧ n.Emits (p ++ r) f ∧ f.Fits n

theorem Schema.Finds.fitsBelow {s : Schema} {p : Path} {f : Failure} (h : s.Finds p f) :
    f.FitsBelow s p := by
  obtain ⟨r, n, hleads, hemits⟩ := h
  exact ⟨r, n, hleads, hemits, hemits.fits⟩

namespace Schema

/-- A number is never of the wrong type for a number schema. -/
theorem kind_ne_typeMismatch_of_number {s : Schema} (hs : s.kind = .number) {x : Number} {path : Path}
    {f : Failure} (h : s.interpret (some (.number x)) path = .error f) : f.kind ≠ .typeMismatch := by
  induction s with
  | number slot settings =>
    obtain ⟨kind, message, hv, rfl⟩ := exists_of_checked h
    have hkind : kind = .rangeOutOfBounds ∨ kind = .signViolated := by
      simpa using NumberSettings.kind_mem_of_violation? hv
    rcases hkind with rfl | rfl <;> simp
  | shared access inner ih => exact ih hs h
  | _ => cases hs

end Schema

namespace Session

/-- **Kinds and values.** For every schema, and for every node in every state of a run: the kind and the
    offending value of each failure fit each other, at the node that has found it. -/
theorem failure_kinds_fit_values :
    (∀ (s : Schema) input path f, s.interpret input path = .error f → f.FitsBelow s path) ∧
    (∀ s : Schema, s.kind = .number → ∀ x path f,
      s.interpret (some (.number x)) path = .error f → f.kind ≠ .typeMismatch) ∧
    ∀ (dialect : PatternDialect) (steps : List Step), ∀ n ∈ (reached dialect steps).nodes,
      ∀ input path f, (n.validate input path (reached dialect steps).store).1 = .error f →
        f.FitsBelow n path := by
  refine ⟨fun s input path f h => (s.interpret_finds h).fitsBelow,
    fun s hs x path f h => Schema.kind_ne_typeMismatch_of_number hs h,
    fun dialect steps n hn input path f h => ?_⟩
  rw [(reached_runsAsInterpreted hn).validate_eq] at h
  exact (n.interpret_finds h).fitsBelow

theorem failure_kinds_fit_values_words : ∃ n ∈ (reached noPatterns wordsRun).nodes,
    Failure.FitsBelow ⟨⟨[.field "body", .field "words"]⟩, .typeMismatch,
      "Expected array, received boolean", some (.bool true)⟩ n (.ofField "body") := by
  have hn := List.mem_of_getElem? (l := (reached noPatterns wordsRun).nodes) (i := 3) rfl
  exact ⟨_, hn, failure_kinds_fit_values.2.2 noPatterns wordsRun _ hn
    (some (.object [("words", .bool true)])) (.ofField "body") _ rfl⟩

end Session

end JsonValidation
