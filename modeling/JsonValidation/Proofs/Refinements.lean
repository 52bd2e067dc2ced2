import JsonValidation.Predicate
import JsonValidation.Proofs.Wrappers

/-!
# Stacks of refinements

A schema can be refined again and again. Every refinement of such a stack looks at the same output, that
of the schema below all of them, because the refinements in between return it as it is. The first one
that does not accept the output is reported, and those after it are not asked.

* `Condition.unmet?`: the first condition that an output does not meet. `unmet?_eq_some_iff`: there may
  be any conditions after it.
* `Routine.refineAll_eq_bind`: a stack of refinements is one check of all conditions in their order.
* `Schema.Stacked`: what is made by refining a schema again and again, with copies and shared nodes in
  between.
* `Schema.RefinesInOrder`, `refinements_in_order`: stacks on any schema, run in any way.
-/

namespace JsonValidation

/-- What a refinement asks of an output, and what it says of an output for which it does not hold. -/
structure Condition where
  accepts : Output → Bool
  message : String := Schema.defaultRefinementMessage

namespace Condition

variable {stack : List Condition} {c : Condition} {output o : Output} {path : Path} {f : Failure}

/-! ## The first condition that is not met -/

/-- The first condition that an output does not meet. -/
def unmet? (stack : List Condition) (output : Output) : Option Condition :=
  stack.find? fun c => !c.accepts output

theorem unmet?_eq_none_iff : unmet? stack output = none ↔ ∀ c ∈ stack, c.accepts output = true := by
  simp [unmet?]

theorem unmet?_eq_some_iff : unmet? stack output = some c ↔
    c.accepts output = false ∧
      ∃ early late, stack = early ++ c :: late ∧ ∀ e ∈ early, e.accepts output = true := by
  simp [unmet?, List.find?_eq_some_iff_append]

/-- A condition that is not met hides those after it. -/
theorem unmet?_append_cons (h : c.accepts output = false) (early late late' : List Condition) :
    unmet? (early ++ c :: late) output = unmet? (early ++ c :: late') output := by
  simp [unmet?, List.find?_append, h]

/-- The failure of an output that does not meet a condition. The offending value is that of the
    output. -/
def failure (c : Condition) (path : Path) (output : Output) : Failure :=
  ⟨path, .refinementFailed, c.message, output.toValue?⟩

/-- The outcome of an output when the conditions of a stack are checked in their order. -/
def check (stack : List Condition) (path : Path) (output : Output) : Outcome Output :=
  match unmet? stack output with
  | none => .ok output
  | some c => .error (c.failure path output)

theorem check_eq_ok_iff : check stack path output = .ok o ↔
    (∀ c ∈ stack, c.accepts output = true) ∧ output = o := by
  rw [check, ← unmet?_eq_none_iff]
  cases unmet? stack output <;> simp

theorem check_eq_error_iff : check stack path output = .error f ↔
    ∃ c, unmet? stack output = some c ∧ c.failure path output = f := by
  rw [check]
  cases unmet? stack output <;> simp

/-- A refinement checks its condition before those of the rest of the stack. -/
theorem bind_check_refineOutcome (c : Condition) (rest : List Condition) (path : Path)
    (outcome : Outcome Output) :
    (refineOutcome c.accepts c.message path outcome).bind (check rest path) =
      outcome.bind (check (c :: rest) path) := by
  cases outcome with
  | error f => rfl
  | ok o =>
    show (refineOutcome c.accepts c.message path (.ok o)).bind (check rest path) =
      check (c :: rest) path o
    cases hc : c.accepts o with
    | true =>
      have hunmet : unmet? (c :: rest) o = unmet? rest o := List.find?_cons_of_neg (by simp [hc])
      rw [refineOutcome, if_pos hc, check, hunmet]
      rfl
    | false =>
      have hunmet : unmet? (c :: rest) o = some c := List.find?_cons_of_pos (by simp [hc])
      rw [refineOutcome, if_neg (by simp [hc]), check, hunmet]
      rfl

end Condition

namespace Routine

variable {inner : Routine} {stack : List Condition} {input : Option Value} {path : Path} {c : Condition}
  {o : Output} {f : Failure}

/-! ## Stacks on a routine -/

/-- A routine that is refined by the conditions of a stack, one after the other. -/
def refineAll (inner : Routine) (stack : List Condition) : Routine :=
  stack.foldl (fun r c => r.refinement c.accepts c.message) inner

theorem refineAll_concat (inner : Routine) (stack : List Condition) (c : Condition) :
    inner.refineAll (stack ++ [c]) = (inner.refineAll stack).refinement c.accepts c.message :=
  List.foldl_append ..

/-- A stack of refinements checks all its conditions on one output. -/
theorem refineAll_eq_bind (inner : Routine) (stack : List Condition) (input : Option Value)
    (path : Path) :
    inner.refineAll stack input path = (inner input path).bind (Condition.check stack path) := by
  induction stack generalizing inner with
  | nil => cases h : inner input path <;> exact h
  | cons c rest ih =>
    -- the rest of the stack stands on the routine that is refined by the first condition
    show (inner.refinement c.accepts c.message).refineAll rest input path = _
    rw [ih, refinement, Condition.bind_check_refineOutcome]

theorem refineAll_eq_ok_iff : inner.refineAll stack input path = .ok o ↔
    inner input path = .ok o ∧ ∀ c ∈ stack, c.accepts o = true := by
  rw [refineAll_eq_bind]
  cases inner input path with
  | error f => exact iff_of_false nofun fun h => nomatch h.1
  | ok output =>
    show Condition.check stack path output = .ok o ↔ _
    rw [Condition.check_eq_ok_iff, Except.ok.injEq]
    constructor
    · rintro ⟨hall, rfl⟩
      exact ⟨rfl, hall⟩
    · rintro ⟨rfl, hall⟩
      exact ⟨hall, rfl⟩

theorem refineAll_eq_error_iff : inner.refineAll stack input path = .error f ↔
    inner input path = .error f ∨
      ∃ o c, inner input path = .ok o ∧ Condition.unmet? stack o = some c ∧ f = c.failure path o := by
  rw [refineAll_eq_bind]
  cases inner input path with
  | error g => exact ⟨.inl, fun h => h.resolve_right fun ⟨_, _, hok, _⟩ => nomatch hok⟩
  | ok output =>
    show Condition.check stack path output = .error f ↔ _
    rw [Condition.check_eq_error_iff]
    constructor
    · rintro ⟨c, hc, rfl⟩
      exact .inr ⟨output, c, rfl, hc, rfl⟩
    · rintro (hok | ⟨o, c, hok, hc, rfl⟩)
      · cases hok
      · obtain rfl := Except.ok.inj hok
        exact ⟨c, hc, rfl⟩

/-- Two stacks that are the same up to a condition that the output does not meet have the same
    outcome. -/
theorem refineAll_hides (h : inner input path = .ok o) (hc : c.accepts o = false)
    (early late late' : List Condition) :
    inner.refineAll (early ++ c :: late) input path =
      inner.refineAll (early ++ c :: late') input path := by
  rw [refineAll_eq_bind, refineAll_eq_bind, h]
  show Condition.check _ path o = Condition.check _ path o
  rw [Condition.check, Condition.check, Condition.unmet?_append_cons hc early late late']

/-- What a stack of refinements makes of the outcomes of the routine below it. -/
structure ChecksInOrder (stack : List Condition) (inner run : Routine) : Prop where
  /-- A failure is returned as it is, whatever the conditions are. -/
  passes : ∀ input path f, inner input path = .error f → run input path = .error f
  /-- The first condition that the output does not meet is reported, with the path at which the input
      stands and the value of the output. It does not matter what stands after it. -/
  reports : ∀ input path o early c late, inner input path = .ok o → stack = early ++ c :: late →
    (∀ e ∈ early, e.accepts o = true) → c.accepts o = false →
      run input path = .error ⟨path, .refinementFailed, c.message, o.toValue?⟩
  /-- An output that meets all conditions is returned as it is. -/
  returns : ∀ input path o, inner input path = .ok o → (∀ c ∈ stack, c.accepts o = true) →
    run input path = .ok o
  /-- There is no other success -/
  ok_iff : ∀ input path o, run input path = .ok o ↔
    inner input path = .ok o ∧ ∀ c ∈ stack, c.accepts o = true
  /-- and no other failure. -/
  error_iff : ∀ input path f, run input path = .error f ↔ inner input path = .error f ∨
    ∃ o c, inner input path = .ok o ∧ Condition.unmet? stack o = some c ∧
      f = ⟨path, .refinementFailed, c.message, o.toValue?⟩

theorem checksInOrder_refineAll (inner : Routine) (stack : List Condition) :
    ChecksInOrder stack inner (inner.refineAll stack) where
  passes input path f h := refineAll_eq_error_iff.mpr (.inl h)
  reports input path o early c late h hstack hearly hc := by
    have hunmet : Condition.unmet? stack o = some c :=
      Condition.unmet?_eq_some_iff.mpr ⟨hc, early, late, hstack, hearly⟩
    exact refineAll_eq_error_iff.mpr (.inr ⟨o, c, h, hunmet, rfl⟩)
  returns input path o h hall := refineAll_eq_ok_iff.mpr ⟨h, hall⟩
  ok_iff input path o := refineAll_eq_ok_iff
  error_iff input path f := refineAll_eq_error_iff

end Routine

/-! ## Stacks on a schema -/

/-- The schema refined by the conditions of a stack, one after the other. -/
def Schema.refineAll (s : Schema) (stack : List Condition) (σ : Store) : Schema × Store :=
  stack.foldl (fun made c => made.1.refine c.accepts c.message made.2) (s, σ)

/-- The calls that refine a schema by the conditions of a stack, one after the other. -/
def Blueprint.refineAll (receiver : Blueprint) (stack : List Condition) : Blueprint :=
  stack.foldl (fun b c => .refine b c.accepts (some c.message)) receiver

theorem Blueprint.build_refineAll (env : Surroundings) (receiver : Blueprint)
    (stack : List Condition) (σ : Store) : build env (receiver.refineAll stack) σ =
      (build env receiver σ).map fun made => made.1.refineAll stack made.2 := by
  induction stack generalizing receiver with
  | nil => cases h : build env receiver σ <;> exact h
  | cons c rest ih =>
    show build env ((receiver.refine c.accepts (some c.message)).refineAll rest) σ = _
    rw [ih, build]
    cases build env receiver σ <;> rfl

namespace Schema

variable {s t : Schema} {stack : List Condition}

/-- The second schema is made from the first one by refining it by the conditions of a stack, one after
    the other. Each call can be made in another store, and in between a schema can be copied and
    shared. -/
inductive Stacked (s : Schema) : List Condition → Schema → Prop where
  | base : Stacked s [] s
  | refine {stack : List Condition} {t : Schema} (h : Stacked s stack t) (c : Condition) (σ : Store) :
    Stacked s (stack ++ [c]) (t.refine c.accepts c.message σ).1
  | copy {stack : List Condition} {t : Schema} (h : Stacked s stack t) (σ : Store) :
    Stacked s stack (t.copy σ).1
  | share {stack : List Condition} {t : Schema} (h : Stacked s stack t) (access : Access) :
    Stacked s stack (shared access t)

/-- Refining goes on where it has ended. -/
theorem Stacked.refineAll (h : Stacked s stack t) (later : List Condition) (σ : Store) :
    Stacked s (stack ++ later) (t.refineAll later σ).1 := by
  induction later generalizing stack t σ with
  | nil => rwa [List.append_nil]
  | cons c rest ih =>
    rw [List.append_cons]
    exact ih (h.refine c σ) _

/-- Whatever happened between the calls, the interpreter is that of the schema below, refined. -/
theorem Stacked.interpret_eq (h : Stacked s stack t) :
    t.interpret = Routine.refineAll s.interpret stack := by
  induction h with
  | base => rfl
  | refine h c σ ih => rw [interpret_refine, ih, Routine.refineAll_concat]
  | copy h σ ih => rw [interpret_copy, ih]
  | share h access ih =>
    rw [← ih]
    rfl

/-! ## Main statement -/

/-- What stacks of refinements do, whichever way they and the schema below them are run. -/
structure RefinesInOrder : Prop where
  /-- Calls that refine a schema one after the other make a stack on it. -/
  built : ∀ env receiver stack σ, Blueprint.build env (receiver.refineAll stack) σ =
    (Blueprint.build env receiver σ).map fun made => made.1.refineAll stack made.2
  /-- There is a stack of every list of conditions on every schema. -/
  made : ∀ (s : Schema) stack σ, Stacked s stack (s.refineAll stack σ).1
  /-- A stack returns the failures of the schema below it, reports the first condition that the output
      does not meet, and else returns the output. -/
  checks : ∀ (s t : Schema) stack inner run, Stacked s stack t → s.RunBy inner → t.RunBy run →
    Routine.ChecksInOrder stack inner run
  /-- What stands after a condition that is not met makes no difference. -/
  later : ∀ (s t t' : Schema) early c late late' inner run run',
    Stacked s (early ++ c :: late) t → Stacked s (early ++ c :: late') t' →
    s.RunBy inner → t.RunBy run → t'.RunBy run' →
    ∀ input path o, inner input path = .ok o → c.accepts o = false →
      run input path = run' input path

/-- **Refinements.** A stack of refinements checks the output of the schema below it, condition by
    condition, up to the first that is not met. -/
theorem refinements_in_order : RefinesInOrder where
  built := Blueprint.build_refineAll
  made s stack σ := Stacked.base.refineAll stack σ
  checks s t stack inner run ht hinner hrun := by
    rw [hrun.eq_interpret, hinner.eq_interpret, ht.interpret_eq]
    exact Routine.checksInOrder_refineAll _ stack
  later s t t' early c late late' inner run run' ht ht' hinner hrun hrun' input path o ho hc := by
    rw [hinner.eq_interpret] at ho
    rw [hrun.eq_interpret, hrun'.eq_interpret, ht.interpret_eq, ht'.interpret_eq]
    exact Routine.refineAll_hides ho hc early late late'

/-- A trip has two ends, which are the same, and something that no trip has. -/
def tripConditions : List Condition :=
  [⟨Predicate.accepts (.size 2), "two ends"⟩,
    ⟨Predicate.accepts (.same "start" "stop"), "no round trip"⟩,
    { accepts := Predicate.accepts (.always false) }]

/-- A trip that is refined once and compiled, and a copy of it that is refined twice. -/
def tripRun : List Session.Step :=
  [.define "trip" (.field (.field (.object []) "start" (.string none none none)) "stop"
      (.string none none none)),
    .define "ends" ((Blueprint.share "trip").refineAll (tripConditions.take 1)),
    .compile "ends",
    .define "round" ((Blueprint.copyOf "ends").refineAll (tripConditions.drop 1))]

open Session (reached noPatterns) in
/-- A trip without an end fails as before. Of a trip between two places the second condition is
    reported, with what is left of the input when the member that trips do not have is dropped. The third
    condition is reported of a round trip. -/
theorem refinements_in_order_trips : ∃ trip ∈ (reached noPatterns tripRun).nodes,
    ∃ round ∈ (reached noPatterns tripRun).nodes,
      Routine.ChecksInOrder tripConditions trip.interpret
        (fun input path => (round.validate input path (reached noPatterns tripRun).store).1) ∧
      (round.validate (some (.object [("start", .string "A")])) (.ofField "day")
          (reached noPatterns tripRun).store).1 =
        .error ⟨⟨[.field "day", .field "stop"]⟩, .missingRequired, "Required", none⟩ ∧
      (round.validate (some (.object [("start", .string "A"), ("stop", .string "B"),
          ("via", .string "C")])) (.ofField "day") (reached noPatterns tripRun).store).1 =
        .error ⟨.ofField "day", .refinementFailed, "no round trip",
          some (.object [("start", .string "A"), ("stop", .string "B")])⟩ ∧
      (round.validate (some (.object [("start", .string "A"), ("stop", .string "A")])) .root
          (reached noPatterns tripRun).store).1 =
        .error ⟨.root, .refinementFailed, "Failed refinement check",
          some (.object [("start", .string "A"), ("stop", .string "A")])⟩ := by
  have htrip := List.mem_of_getElem? (l := (reached noPatterns tripRun).nodes) (i := 0) rfl
  have hround := List.mem_of_getElem? (l := (reached noPatterns tripRun).nodes) (i := 7) rfl
  have hends := fun trip => (Stacked.base (s := trip)).share .direct |>.refineAll
    (tripConditions.take 1) { next := 5 }
  have hstacked := fun trip => ((hends trip).copy { next := 6 }).refineAll (tripConditions.drop 1)
    { next := 7 }
  exact ⟨_, htrip, _, hround, refinements_in_order.checks _ _ _ _ _ (hstacked _) .interpreted
    (.of_mem_nodes hround), rfl, rfl, rfl⟩

end Schema

end JsonValidation
