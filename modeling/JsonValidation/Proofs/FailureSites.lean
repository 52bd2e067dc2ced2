import JsonValidation.Proofs.Agreement
import JsonValidation.Proofs.Outcomes
import JsonValidation.Proofs.Replies

/-!
# Failures follow the schema

A failure is found by one node of the schema, in a check of its own. Its path continues the path at
which the input stands by a walk down the schema to that node: a name leads from an object to a field,
a position from an array to its elements, and wrappers and pipes are passed without a step. What the
alternatives of a union find is lost, so no walk enters a union.

* `Schema.Leads`: the walks down a schema.
* `Schema.Emits`: the failures that a node finds itself, one rule a check.
* `SchemaKind.failures`, `Emits.kind_mem`: of which kinds they can be.
* `Schema.interpret_finds`: every failure of the interpreter is found at the end of a walk.
* `Failure.Sited`, `failure_sites`: where the failures of a schema stand.
-/

namespace JsonValidation

namespace SchemaKind

/-- The kinds of failures of a check that an input is there and of a certain type. -/
def typeFailures : List FailureKind := [.typeMismatch, .missingRequired, .nullNotAllowed]

/-- The kinds of the failures that a node finds itself. -/
def failures : SchemaKind → List FailureKind
  | string => typeFailures ++ [.lengthOutOfBounds, .patternMismatch]
  | number => typeFailures ++ [.rangeOutOfBounds, .signViolated]
  | boolean => typeFailures ++ [.literalMismatch]
  | literal => [.missingRequired, .literalMismatch]
  | array => typeFailures ++ [.lengthOutOfBounds]
  | object => typeFailures
  | union => [.unionExhausted]
  | refinement => [.refinementFailed]
  | optional => []
  | nullable => []
  | pipe => []

/-- The name of the type that a node expects, if it expects one. -/
def expected? : SchemaKind → Option String
  | string => some "string"
  | number => some "number"
  | boolean => some "boolean"
  | array => some "array"
  | object => some "object"
  | _ => none

theorem typeFailures_subset {k : SchemaKind} {expected : String} (h : k.expected? = some expected) :
    typeFailures ⊆ k.failures := by
  intro kind hkind
  cases k with
  | string | number | boolean | array => exact List.mem_append_left _ hkind
  | object => exact hkind
  | _ => cases h

end SchemaKind

namespace Schema

/-- The message of a node for inputs that are not of the type that it expects. -/
def typeMessage? : Schema → Option String
  | string _ settings => settings.typeMessage
  | number _ settings => settings.typeMessage
  | boolean _ settings => settings.typeMessage
  | array _ _ settings => settings.typeMessage
  | object _ _ typeMessage => typeMessage
  | shared _ inner => inner.typeMessage?
  | _ => none

/-- The walks down a schema. A name leads from an object to a field of that name, and a position leads
    from an array to its elements. Wrappers, the stages of a pipe and shared nodes are entered without
    a step, and a union is not entered at all. -/
inductive Leads : Schema → List Segment → Schema → Prop
  | here (s : Schema) : Leads s [] s
  | element {slot element settings position steps n} (h : Leads element steps n) :
      Leads (array slot element settings) (.index position :: steps) n
  | field {slot fields typeMessage name c steps n} (hc : (name, c) ∈ fields) (h : Leads c steps n) :
      Leads (object slot fields typeMessage) (.field name :: steps) n
  | optional {slot inner steps n} (h : Leads inner steps n) : Leads (optional slot inner) steps n
  | nullable {slot inner steps n} (h : Leads inner steps n) : Leads (nullable slot inner) steps n
  | refinement {slot inner accepts message steps n} (h : Leads inner steps n) :
      Leads (refinement slot inner accepts message) steps n
  | first {slot first second steps n} (h : Leads first steps n) :
      Leads (pipe slot first second) steps n
  | second {slot first second steps n} (h : Leads second steps n) :
      Leads (pipe slot first second) steps n
  | shared {access inner steps n} (h : Leads inner steps n) : Leads (shared access inner) steps n

/-- The failures that a node finds itself at a path. Each rule is one of the checks: what it has looked
    at is the offending value. -/
inductive Emits : Schema → Path → Failure → Prop
  | typeCheck {s expected input path f} (hs : s.kind.expected? = some expected)
      (hinput : ∀ v, input = some v → v.typeName ≠ expected)
      (hf : (typeFailure expected input path s.typeMessage? : Outcome Output) = .error f) :
      Emits s path f
  | string {slot settings text kind message path}
      (h : settings.violation? text = some (kind, message)) :
      Emits (string slot settings) path ⟨path, kind, message, some (.string text)⟩
  | number {slot settings n kind message path}
      (h : settings.violation? n.toBinary64 = some (kind, message)) :
      Emits (number slot settings) path ⟨path, kind, message, some (.number n)⟩
  | boolean {slot settings b kind message path}
      (h : settings.violation? b = some (kind, message)) :
      Emits (boolean slot settings) path ⟨path, kind, message, some (.bool b)⟩
  | absent {slot expected path} :
      Emits (literal slot expected) path ⟨path, .missingRequired, "Required", none⟩
  | literal {slot expected v path} (h : expected.accepts v = false) :
      Emits (literal slot expected) path ⟨path, .literalMismatch, expected.mismatch v, some v⟩
  | array {slot element settings items kind message path}
      (h : settings.violation? items.length = some (kind, message)) :
      Emits (array slot element settings) path ⟨path, kind, message, some (.array items)⟩
  | union {slot alternatives messages input path}
      (h : interpretAlternatives alternatives input path = .error messages) :
      Emits (union slot alternatives) path
        ⟨path, .unionExhausted, Text.join "; " messages, input⟩
  | refinement {slot inner accepts message output path} (h : accepts output = false) :
      Emits (refinement slot inner accepts message) path
        ⟨path, .refinementFailed, message, output.toValue?⟩

end Schema

/-! ## The kinds that checks report -/

/-- The check finds violations of these kinds only. -/
def Check.Reports {α : Type} (check : Check α) (kinds : List FailureKind) : Prop :=
  ∀ a v, check a = some v → v.1 ∈ kinds

theorem kind_mem_of_firstViolation {α : Type} {checks : List (Check α)} {kinds : List FailureKind}
    (h : ∀ check ∈ checks, check.Reports kinds) {a : α} {v : Violation}
    (hv : firstViolation checks a = some v) : v.1 ∈ kinds := by
  obtain ⟨check, hcheck, hfound⟩ := List.exists_of_findSome?_eq_some hv
  exact h check hcheck a v hfound

theorem StringSettings.kind_mem_of_violation? {settings : StringSettings} {text : String}
    {v : Violation} (h : settings.violation? text = some v) :
    v.1 ∈ [FailureKind.lengthOutOfBounds, .patternMismatch] := by
  rw [← firstViolation_checks] at h
  refine kind_mem_of_firstViolation (fun check hcheck a v hv => ?_) h
  simp only [checks, List.mem_append, Option.mem_toList, Option.map_eq_some_iff] at hcheck
  rcases hcheck with (⟨c, -, rfl⟩ | ⟨c, -, rfl⟩) | ⟨c, -, rfl⟩
  · grind [minLenViolation, Constraint.violation]
  · grind [maxLenViolation, Constraint.violation]
  · grind [patternViolation, Constraint.violation]

theorem NumberSettings.kind_mem_of_violation? {settings : NumberSettings} {n : Binary64}
    {v : Violation} (h : settings.violation? n = some v) :
    v.1 ∈ [FailureKind.rangeOutOfBounds, .signViolated] := by
  rw [← firstViolation_checks] at h
  refine kind_mem_of_firstViolation (fun check hcheck a v hv => ?_) h
  simp only [checks, List.mem_append, Option.mem_toList, Option.map_eq_some_iff] at hcheck
  rcases hcheck with ((⟨c, -, rfl⟩ | ⟨c, -, rfl⟩) | ⟨c, -, rfl⟩) | ⟨c, -, rfl⟩
  · grind [minViolation, Constraint.violation]
  · grind [maxViolation, Constraint.violation]
  · grind [positiveViolation, Constraint.violation]
  · grind [negativeViolation, Constraint.violation]

theorem BooleanSettings.kind_mem_of_violation? {settings : BooleanSettings} {b : Bool}
    {v : Violation} (h : settings.violation? b = some v) : v.1 ∈ [FailureKind.literalMismatch] := by
  rw [← firstViolation_checks] at h
  refine kind_mem_of_firstViolation (fun check hcheck a v hv => ?_) h
  simp only [checks, List.mem_append, Option.mem_toList, Option.map_eq_some_iff] at hcheck
  rcases hcheck with ⟨c, -, rfl⟩ | ⟨c, -, rfl⟩
  · grind [mustBeTrueViolation, Constraint.violation]
  · grind [mustBeFalseViolation, Constraint.violation]

theorem ArraySettings.kind_mem_of_violation? {settings : ArraySettings} {length : Nat}
    {v : Violation} (h : settings.violation? length = some v) :
    v.1 ∈ [FailureKind.lengthOutOfBounds] := by
  rw [← firstViolation_checks] at h
  refine kind_mem_of_firstViolation (fun check hcheck a v hv => ?_) h
  simp only [checks, List.mem_append, Option.mem_toList, Option.map_eq_some_iff] at hcheck
  rcases hcheck with ⟨c, -, rfl⟩ | ⟨c, -, rfl⟩
  · grind [minLenViolation, Constraint.violation]
  · grind [maxLenViolation, Constraint.violation]

/-- The failure of a type check says whether the input was absent, null or of another type. -/
theorem typeFailure_eq_error {expected : String} {input : Option Value} {path : Path}
    {custom : Option String} {f : Failure}
    (h : (typeFailure expected input path custom : Outcome Output) = .error f) :
    (input = none ∧ f = ⟨path, .missingRequired, custom.getD "Required", none⟩) ∨
    (input = some .null ∧ f = ⟨path, .nullNotAllowed,
      custom.getD ("Expected " ++ expected ++ ", received null"), some .null⟩) ∨
    ∃ v, v ≠ .null ∧ input = some v ∧ f = ⟨path, .typeMismatch,
      custom.getD ("Expected " ++ expected ++ ", received " ++ v.typeName), some v⟩ := by
  rcases input with _ | v
  · cases h
    exact .inl ⟨rfl, rfl⟩
  · cases v with
    | null =>
      cases h
      exact .inr (.inl ⟨rfl, rfl⟩)
    | _ => exact .inr (.inr ⟨_, by simp, rfl, (Except.error.inj h).symm⟩)

namespace Schema

open SchemaKind

/-- **Kinds.** What a node finds itself is of one of the kinds that its own kind has. -/
theorem Emits.kind_mem {n : Schema} {p : Path} {f : Failure} (h : n.Emits p f) :
    f.kind ∈ n.kind.failures := by
  cases h with
  | typeCheck hs _ hf =>
    refine typeFailures_subset hs ?_
    rcases typeFailure_eq_error hf with ⟨-, rfl⟩ | ⟨-, rfl⟩ | ⟨v, -, -, rfl⟩ <;> simp [typeFailures]
  | string hv => exact List.mem_append_right _ (StringSettings.kind_mem_of_violation? hv)
  | number hv => exact List.mem_append_right _ (NumberSettings.kind_mem_of_violation? hv)
  | boolean hv => exact List.mem_append_right _ (BooleanSettings.kind_mem_of_violation? hv)
  | array hv => exact List.mem_append_right _ (ArraySettings.kind_mem_of_violation? hv)
  | absent => exact List.mem_cons_self
  | literal => exact List.mem_cons_of_mem _ List.mem_cons_self
  | union => exact List.mem_cons_self
  | refinement => exact List.mem_cons_self

theorem Emits.path_eq {n : Schema} {p : Path} {f : Failure} (h : n.Emits p f) : f.path = p := by
  cases h with
  | typeCheck _ _ hf => exact (isAbout_of_typeFailure hf).1
  | _ => rfl

/-! ## The checks of a node -/

section Checks

variable {input : Option Value} {path : Path} {f : Failure} {slot : Slot}

theorem exists_of_checked {α : Type} {violation : Option Violation} {a : α}
    (h : (match violation with
      | some (kind, message) => Outcome.fail path kind message input
      | none => .ok a) = .error f) :
    ∃ kind message, violation = some (kind, message) ∧ f = ⟨path, kind, message, input⟩ := by
  cases violation with
  | none => cases h
  | some violation => exact ⟨violation.1, violation.2, rfl, (Except.error.inj h).symm⟩

theorem emits_string {settings : StringSettings} (h : settings.interpret input path = .error f) :
    (string slot settings).Emits path f := by
  unfold StringSettings.interpret at h
  split at h
  · obtain ⟨kind, message, hv, rfl⟩ := exists_of_checked h
    exact .string hv
  · refine .typeCheck rfl (fun v hv => ?_) h
    cases v <;> simp_all [Value.typeName]

theorem emits_number {settings : NumberSettings} (h : settings.interpret input path = .error f) :
    (number slot settings).Emits path f := by
  unfold NumberSettings.interpret at h
  split at h
  · obtain ⟨kind, message, hv, rfl⟩ := exists_of_checked h
    exact .number hv
  · refine .typeCheck rfl (fun v hv => ?_) h
    cases v <;> simp_all [Value.typeName]

theorem emits_boolean {settings : BooleanSettings} (h : settings.interpret input path = .error f) :
    (boolean slot settings).Emits path f := by
  unfold BooleanSettings.interpret at h
  split at h
  · obtain ⟨kind, message, hv, rfl⟩ := exists_of_checked h
    exact .boolean hv
  · refine .typeCheck rfl (fun v hv => ?_) h
    cases v <;> simp_all [Value.typeName]

theorem emits_literal {expected : Literal} (h : expected.validate input path = .error f) :
    (literal slot expected).Emits path f := by
  unfold Literal.validate at h
  split at h
  · cases h
    exact .absent
  · split at h
    · cases h
    · rename_i hrefused
      cases h
      exact .literal (Bool.eq_false_iff.mpr hrefused)

theorem emits_array {element : Schema} {settings : ArraySettings}
    (h : (array slot element settings).interpret input path = .error f) :
    (array slot element settings).Emits path f ∨ ∃ items, input = some (.array items) ∧
      eachItem (fun item => element.interpret (some item)) path 0 items = .error f := by
  rw [interpret.eq_def] at h
  dsimp only at h
  split at h
  · rename_i items
    split at h
    · rename_i hv
      cases h
      exact .inl (.array hv)
    · split at h
      · cases h
      · rename_i failure hitems
        obtain rfl := Except.error.inj h
        exact .inr ⟨items, rfl, hitems⟩
  · refine .inl (.typeCheck rfl (fun v hv => ?_) h)
    cases v <;> simp_all [Value.typeName]

theorem emits_object {fields : List (String × Schema)} {typeMessage : Option String}
    (h : (object slot fields typeMessage).interpret input path = .error f) :
    (object slot fields typeMessage).Emits path f ∨ ∃ members, input = some (.object members) ∧
      interpretFields fields members path [] = .error f := by
  rw [interpret.eq_def] at h
  dsimp only at h
  split at h
  · exact .inr ⟨_, rfl, h⟩
  · refine .inl (.typeCheck rfl (fun v hv => ?_) h)
    cases v <;> simp_all [Value.typeName]

theorem emits_union {alternatives : List Schema}
    (h : (union slot alternatives).interpret input path = .error f) :
    (union slot alternatives).Emits path f := by
  rw [interpret] at h
  split at h
  · cases h
  · rename_i hmessages
    cases h
    exact .union hmessages

end Checks

/-! ## The node that finds a failure -/

/-- The failure is found by a node at the end of a walk down the schema, and the walk continues a path
    to the path of the failure. -/
def Finds (s : Schema) (p : Path) (f : Failure) : Prop :=
  ∃ (r : Path) (n : Schema), s.Leads r.segments n ∧ n.Emits (p ++ r) f

variable {s c : Schema} {p : Path} {f : Failure}

theorem Emits.finds (h : s.Emits p f) : s.Finds p f := by
  refine ⟨.root, s, .here s, ?_⟩
  rwa [Path.append_root]

/-- What a child finds one step further down. -/
theorem Finds.below {segment : Segment} (h : c.Finds (p.push segment) f)
    (hstep : ∀ {steps n}, c.Leads steps n → s.Leads (segment :: steps) n) : s.Finds p f := by
  obtain ⟨r, n, hleads, hemits⟩ := h
  refine ⟨⟨segment :: r.segments⟩, n, hstep hleads, ?_⟩
  rwa [← Path.push_append]

/-- What a child finds that is entered without a step. -/
theorem Finds.within (h : c.Finds p f) (henter : ∀ {steps n}, c.Leads steps n → s.Leads steps n) :
    s.Finds p f := by
  obtain ⟨r, n, hleads, hemits⟩ := h
  exact ⟨r, n, henter hleads, hemits⟩

/-- **Failures.** Every failure of the interpreter is found by a node at the end of a walk. -/
theorem interpret_finds (s : Schema) : ∀ {input : Option Value} {path : Path} {f : Failure},
    s.interpret input path = .error f → s.Finds path f := by
  induction s with
  | string slot settings => exact fun h => (emits_string h).finds
  | number slot settings => exact fun h => (emits_number h).finds
  | boolean slot settings => exact fun h => (emits_boolean h).finds
  | literal slot expected => exact fun h => (emits_literal h).finds
  | array slot element settings ih =>
    intro input path f h
    rcases emits_array h with hemits | ⟨items, -, hitems⟩
    · exact hemits.finds
    · obtain ⟨i, item, -, hf⟩ := exists_of_eachItem_eq_error hitems
      exact (ih hf).below .element
  | object slot fields typeMessage ih =>
    intro input path f h
    rcases emits_object h with hemits | ⟨members, -, hfields⟩
    · exact hemits.finds
    · obtain ⟨field, hfield, hf⟩ := exists_of_interpretFields_eq_error hfields
      exact (ih field hfield hf).below (.field hfield)
  | union slot alternatives => exact fun h => (emits_union h).finds
  | optional slot inner ih =>
    exact fun h => (ih (interpret_optional_eq_error.mp h).2).within .optional
  | nullable slot inner ih =>
    exact fun h => (ih (interpret_nullable_eq_error.mp h).2).within .nullable
  | refinement slot inner accepts message ih =>
    intro input path f h
    rcases interpret_refinement_eq_error.mp h with hinner | ⟨output, -, hrefused, rfl⟩
    · exact (ih hinner).within .refinement
    · exact (Emits.refinement hrefused).finds
  | pipe slot first second ihFirst ihSecond =>
    intro input path f h
    rcases interpret_pipe_eq_error.mp h with hfirst | ⟨output, -, hsecond⟩
    · exact (ihFirst hfirst).within .first
    · exact (ihSecond hsecond).within .second
  | shared access inner ih => exact fun h => (ih h).within .shared

end Schema

/-! ## Where failures stand -/

/-- The failure stands at the end of a walk down a schema that continues a path, and the node there has
    failures of its kind. -/
def Failure.Sited (f : Failure) (s : Schema) (p : Path) : Prop :=
  ∃ (r : Path) (n : Schema), f.path = p ++ r ∧ s.Leads r.segments n ∧ f.kind ∈ n.kind.failures

theorem Schema.Finds.sited {s : Schema} {p : Path} {f : Failure} (h : s.Finds p f) : f.Sited s p := by
  obtain ⟨r, n, hleads, hemits⟩ := h
  exact ⟨r, n, hemits.path_eq, hleads, hemits.kind_mem⟩

/-- Where the failures of a schema stand when it is run by a routine. -/
structure Schema.FailsInPlace (s : Schema) (run : Routine) : Prop where
  sited : ∀ {input path f}, run input path = .error f → f.Sited s path
  /-- A union fails at its own path and in its own way, and nothing is reported below. -/
  union : s.kind = .union → ∀ {input path f}, run input path = .error f →
    f.path = path ∧ f.kind = .unionExhausted
  /-- An optional or nullable schema and a pipe have the failures of their children at the same path
      and no others. What the child was given is the input, or the value that another child has made
      of it. -/
  passed : s.kind ∈ [.optional, .nullable, .pipe] → ∀ {input path f}, run input path = .error f →
    ∃ c ∈ s.children, ∃ given, c.interpret given path = .error f ∧
      (given = input ∨ ∃ first ∈ s.children, ∃ output, first.interpret input path = .ok output ∧
        given = output.toValue?)

namespace Schema

variable {input : Option Value} {path : Path} {f : Failure}

theorem isAbout_of_union {s : Schema} (hs : s.kind = .union)
    (h : s.interpret input path = .error f) : f.path = path ∧ f.kind = .unionExhausted := by
  induction s with
  | union slot alternatives =>
    have hemits := emits_union h
    exact ⟨hemits.path_eq, List.mem_singleton.mp hemits.kind_mem⟩
  | shared access inner ih => exact ih hs h
  | _ => cases hs

theorem exists_child_of_passed {s : Schema} (hs : s.kind ∈ [.optional, .nullable, .pipe])
    (h : s.interpret input path = .error f) :
    ∃ c ∈ s.children, ∃ given, c.interpret given path = .error f ∧
      (given = input ∨ ∃ first ∈ s.children, ∃ output, first.interpret input path = .ok output ∧
        given = output.toValue?) := by
  induction s with
  | optional slot inner =>
    exact ⟨inner, List.mem_cons_self, input, (interpret_optional_eq_error.mp h).2, .inl rfl⟩
  | nullable slot inner =>
    exact ⟨inner, List.mem_cons_self, input, (interpret_nullable_eq_error.mp h).2, .inl rfl⟩
  | pipe slot first second =>
    have hmem : first ∈ (pipe slot first second).children := List.mem_cons_self
    rcases interpret_pipe_eq_error.mp h with hfirst | ⟨output, hfirst, hsecond⟩
    · exact ⟨first, hmem, input, hfirst, .inl rfl⟩
    · exact ⟨second, List.mem_cons_of_mem _ List.mem_cons_self, output.toValue?, hsecond,
        .inr ⟨first, hmem, output, hfirst, rfl⟩⟩
  | shared access inner ih => exact ih hs h
  | _ => simp [kind] at hs

theorem interpret_failsInPlace (s : Schema) : s.FailsInPlace s.interpret where
  sited h := (s.interpret_finds h).sited
  union hs _ _ _ h := isAbout_of_union hs h
  passed hs _ _ _ h := exists_child_of_passed hs h

end Schema

/-- A union keeps what its alternatives say and loses where they say it. -/
example : (Schema.union 0 [.object 1 [("id", .string 2 {})] none]).interpret
    (some (.object [])) .root = .error ⟨.root, .unionExhausted, "Required", some (.object [])⟩ := rfl

namespace Session

/-- **Failure sites.** For every schema, and for every node in every state of a run: each failure stands
    at the end of a walk down the schema, at a node that has failures of its kind. -/
theorem failure_sites :
    (∀ s : Schema, s.FailsInPlace s.interpret) ∧
    ∀ (dialect : PatternDialect) (steps : List Step), ∀ n ∈ (reached dialect steps).nodes,
      n.FailsInPlace fun input path => (n.validate input path (reached dialect steps).store).1 := by
  refine ⟨Schema.interpret_failsInPlace, fun dialect steps n hn => ?_⟩
  have heq : (fun input path => (n.validate input path (reached dialect steps).store).1) =
      n.interpret := by
    funext input path
    exact (reached_runsAsInterpreted hn).validate_eq input path
  rw [heq]
  exact n.interpret_failsInPlace

theorem failure_sites_words : ∃ n ∈ (reached noPatterns wordsRun).nodes,
    Failure.Sited ⟨⟨[.field "body", .field "words", .index 1]⟩, .lengthOutOfBounds,
      "String must be at least 1 characters", some (.string "")⟩ n (.ofField "body") := by
  have hn := List.mem_of_getElem? (l := (reached noPatterns wordsRun).nodes) (i := 3) rfl
  exact ⟨_, hn, @Schema.FailsInPlace.sited _ _ (failure_sites.2 noPatterns wordsRun _ hn)
    (some (.object [("words", .array [.string "a", .string ""])])) (.ofField "body") _ rfl⟩

end Session

end JsonValidation
