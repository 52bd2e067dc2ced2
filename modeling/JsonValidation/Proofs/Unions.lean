import JsonValidation.Proofs.SameOutcomes
import Mathlib.Data.List.Forall2

/-!
# Unions

A union tries its alternatives in their order and takes the first that succeeds. Only if all of them
fail it fails itself, at its own path and about its own input, with all their messages. So the order
decides which output is taken but not whether there is one, and a union among the alternatives of
another union can be replaced by its own alternatives.

* `Routine.AllFail`, `Routine.FirstOk`: what becomes of a list of routines on an input.
  `allFail_or_firstOk`: one of the two.
* `Routine.TriesInOrder`: what a union has to do with its alternatives. `triesInOrder_union`: the routine
  of a union.
* `Routine.union_splice`: a union among alternatives.
* `Schema.UnionsTryInOrder`, `unions_try_in_order`: unions of schemas, run in any way.
-/

namespace JsonValidation

namespace Routine

variable {runs early late xs ys zs : List Routine} {run r : Routine} {input : Option Value}
  {path : Path} {failures : List Failure} {output o : Output} {f : Failure}

/-- All routines fail, with these failures in their order. -/
def AllFail (runs : List Routine) (input : Option Value) (path : Path)
    (failures : List Failure) : Prop :=
  runs.map (fun r => r input path) = failures.map .error

/-- The first routine that succeeds has this output. It does not matter what stands after it. -/
def FirstOk (runs : List Routine) (input : Option Value) (path : Path) (output : Output) : Prop :=
  ∃ early r late, runs = early ++ r :: late ∧ (∃ failures, AllFail early input path failures) ∧
    r input path = .ok output

/-- What a union has to do with its alternatives. -/
structure TriesInOrder (runs : List Routine) (run : Routine) : Prop where
  ok_iff : ∀ input path o, run input path = .ok o ↔
    ∃ output, FirstOk runs input path output ∧ o = .ofValue? output.toValue?
  error_iff : ∀ input path f, run input path = .error f ↔
    ∃ failures, AllFail runs input path failures ∧
      f = ⟨path, .unionExhausted, Text.join "; " (failures.map (·.message)), input⟩
  accepts_iff : ∀ input path, (∃ o, run input path = .ok o) ↔ ∃ r ∈ runs, ∃ o, r input path = .ok o

/-! ## First successes -/

theorem allFail_nil : AllFail [] input path [] := rfl

theorem allFail_cons : AllFail (r :: runs) input path failures ↔
    ∃ first rest, failures = first :: rest ∧ r input path = .error first ∧
      AllFail runs input path rest := by
  cases failures with
  | nil => simp [AllFail]
  | cons first rest =>
    constructor
    · intro h
      obtain ⟨hfirst, hrest⟩ := List.cons.inj h
      exact ⟨first, rest, rfl, hfirst, hrest⟩
    · rintro ⟨_, _, heq, hfirst, hrest⟩
      obtain ⟨rfl, rfl⟩ := List.cons.inj heq
      show r input path :: runs.map (fun r => r input path) = _
      rw [hfirst, hrest, List.map_cons]

theorem AllFail.error_of_mem (h : AllFail runs input path failures) (hr : r ∈ runs) :
    ∃ f, r input path = .error f := by
  have hmem : r input path ∈ failures.map .error := h ▸ List.mem_map_of_mem (f := (· input path)) hr
  obtain ⟨f, -, hf⟩ := List.mem_map.mp hmem
  exact ⟨f, hf.symm⟩

/-- Either all routines fail or one of them is the first that succeeds. -/
theorem allFail_or_firstOk (runs : List Routine) (input : Option Value) (path : Path) :
    (∃ failures, AllFail runs input path failures) ∨ ∃ output, FirstOk runs input path output := by
  induction runs with
  | nil => exact .inl ⟨[], allFail_nil⟩
  | cons r rest ih =>
    cases hr : r input path with
    | ok output => exact .inr ⟨output, [], r, rest, rfl, ⟨[], allFail_nil⟩, hr⟩
    | error first =>
      rcases ih with ⟨failures, hfailures⟩ | ⟨output, early, r', late, rfl, ⟨failures, hearly⟩, hr'⟩
      · exact .inl ⟨first :: failures, allFail_cons.mpr ⟨_, _, rfl, hr, hfailures⟩⟩
      · exact .inr ⟨output, r :: early, r', late, rfl,
          ⟨first :: failures, allFail_cons.mpr ⟨_, _, rfl, hr, hearly⟩⟩, hr'⟩

/-- Routines that fail leave their messages. -/
theorem firstSuccess_of_allFail (h : AllFail runs input path failures) (rest : List Routine)
    (messages : List String) : firstSuccess input path (runs ++ rest) messages =
      firstSuccess input path rest (messages ++ failures.map (·.message)) := by
  induction runs generalizing failures messages with
  | nil =>
    obtain rfl : failures = [] := List.map_eq_nil_iff.mp h.symm
    rw [List.nil_append, List.map_nil, List.append_nil]
  | cons r runs ih =>
    obtain ⟨first, others, rfl, hfirst, hothers⟩ := allFail_cons.mp h
    rw [List.cons_append, firstSuccess, values, hfirst]
    show firstSuccess input path (runs ++ rest) (messages ++ [first.message]) = _
    rw [ih hothers, List.append_assoc]
    rfl

/-- The first routine that succeeds decides. -/
theorem firstSuccess_of_firstOk (h : FirstOk runs input path output) (rest : List Routine)
    (messages : List String) :
    firstSuccess input path (runs ++ rest) messages = .ok (.ofValue? output.toValue?) := by
  obtain ⟨early, r, late, rfl, ⟨failures, hearly⟩, hr⟩ := h
  rw [List.append_assoc, firstSuccess_of_allFail hearly, List.cons_append, firstSuccess, values, hr]
  rfl

theorem union_of_allFail (h : AllFail runs input path failures) : union runs input path =
    .error ⟨path, .unionExhausted, Text.join "; " (failures.map (·.message)), input⟩ := by
  have hall := firstSuccess_of_allFail h [] []
  rwa [List.append_nil] at hall

theorem union_of_firstOk (h : FirstOk runs input path output) :
    union runs input path = .ok (.ofValue? output.toValue?) := by
  have hfirst := firstSuccess_of_firstOk h [] []
  rwa [List.append_nil] at hfirst

/-- A union of routines tries them in their order. -/
theorem triesInOrder_union (runs : List Routine) : TriesInOrder runs (union runs) where
  ok_iff input path o := by
    constructor
    · intro h
      rcases allFail_or_firstOk runs input path with ⟨failures, hall⟩ | ⟨output, hfirst⟩
      · cases (union_of_allFail hall).symm.trans h
      · rw [union_of_firstOk hfirst] at h
        exact ⟨output, hfirst, (Except.ok.inj h).symm⟩
    · rintro ⟨output, hfirst, rfl⟩
      exact union_of_firstOk hfirst
  error_iff input path f := by
    constructor
    · intro h
      rcases allFail_or_firstOk runs input path with ⟨failures, hall⟩ | ⟨output, hfirst⟩
      · rw [union_of_allFail hall] at h
        exact ⟨failures, hall, (Except.error.inj h).symm⟩
      · cases (union_of_firstOk hfirst).symm.trans h
    · rintro ⟨failures, hall, rfl⟩
      exact union_of_allFail hall
  accepts_iff input path := by
    rcases allFail_or_firstOk runs input path with ⟨failures, hall⟩ | ⟨output, hfirst⟩
    · rw [union_of_allFail hall]
      refine iff_of_false (by simp) ?_
      rintro ⟨r, hr, o, ho⟩
      obtain ⟨f, hf⟩ := hall.error_of_mem hr
      cases ho.symm.trans hf
    · rw [union_of_firstOk hfirst]
      obtain ⟨early, r, late, rfl, -, hr⟩ := hfirst
      exact iff_of_true ⟨_, rfl⟩ ⟨r, List.mem_append_right _ List.mem_cons_self, output, hr⟩

/-! ## Unions of unions -/

/-- Messages that were joined before can be kept as one message. -/
theorem firstSuccess_splice (input : Option Value) (path : Path) {ss : List String} (hs : ss ≠ [])
    (runs : List Routine) (early late : List String) :
    firstSuccess input path runs (early ++ [Text.join "; " ss] ++ late) =
      firstSuccess input path runs (early ++ ss ++ late) := by
  induction runs generalizing late with
  | nil => rw [firstSuccess, firstSuccess, exhausted, exhausted, Text.join_splice _ hs]
  | cons r rest ih =>
    rw [firstSuccess, firstSuccess]
    cases r.values input path with
    | ok value => rfl
    | error failure =>
      show firstSuccess input path rest (early ++ [Text.join "; " ss] ++ late ++ [failure.message]) =
        firstSuccess input path rest (early ++ ss ++ late ++ [failure.message])
      rw [List.append_assoc, ih, ← List.append_assoc]

/-- A union among alternatives can be replaced by its own alternatives, if it has any. -/
theorem union_splice (hxs : xs ≠ []) (ys zs : List Routine) :
    union (ys ++ [union xs] ++ zs) = union (ys ++ xs ++ zs) := by
  funext input path
  rw [union, union, List.append_assoc, List.append_assoc]
  rcases allFail_or_firstOk ys input path with ⟨failures, hall⟩ | ⟨output, hfirst⟩
  · rw [firstSuccess_of_allFail hall, firstSuccess_of_allFail hall, List.singleton_append,
      firstSuccess, values]
    -- all that is left is to run the alternatives of the union in its place
    rcases allFail_or_firstOk xs input path with ⟨others, hothers⟩ | ⟨output, hfirst⟩
    · have hmessages : others.map (·.message) ≠ [] := by
        intro h
        have hnone : others = [] := List.map_eq_nil_iff.mp h
        subst hnone
        exact hxs (List.map_eq_nil_iff.mp hothers)
      rw [union_of_allFail hothers, firstSuccess_of_allFail hothers]
      have hsplice := firstSuccess_splice input path hmessages zs
        ([] ++ failures.map (·.message)) []
      rwa [List.append_nil, List.append_nil] at hsplice
    · rw [union_of_firstOk hfirst, firstSuccess_of_firstOk hfirst]
      show Except.ok (Output.ofValue? (Output.ofValue? output.toValue?).toValue?) = _
      rw [Output.toValue?_ofValue?]
  · rw [firstSuccess_of_firstOk hfirst, firstSuccess_of_firstOk hfirst]

/-- A union without alternatives leaves an empty message, and with it a separator. -/
example : union [union [], union [union []]] none .root =
    .error ⟨.root, .unionExhausted, "; ", none⟩ := rfl

end Routine

/-! ## Unions of schemas -/

namespace Schema

variable {s t u : Schema} {alternatives xs ys zs : List Schema}

/-- A new union. -/
def ofAlternatives (alternatives : List Schema) (σ : Store) : Schema × Store :=
  create σ fun slot => union slot alternatives

theorem build_union (env : Surroundings) (alternatives : List Blueprint) (σ : Store) :
    Blueprint.build env (.union alternatives) σ =
      (Blueprint.buildAll env alternatives σ).map fun made => ofAlternatives made.1 made.2 := by
  rw [Blueprint.build]
  cases Blueprint.buildAll env alternatives σ <;> rfl

/-- The alternatives of a union. -/
def alternatives? : Schema → Option (List Schema)
  | union _ alternatives => some alternatives
  | shared _ inner => inner.alternatives?
  | _ => none

/-- Adds alternatives one after the other, each in whatever store the call is made in. -/
def addAlternatives : Schema → List (Schema × Store) → Option Schema
  | s, [] => some s
  | s, (alternative, σ) :: rest =>
    (s.addAlternative alternative σ).bind fun made => addAlternatives made.1 rest

theorem exists_union (h : s.alternatives? = some alternatives) :
    ∃ slot, s.node = union slot alternatives := by
  induction s with
  | union slot alternatives =>
    cases h
    exact ⟨slot, rfl⟩
  | shared access inner ih => exact ih h
  | _ => cases h

theorem interpret_of_alternatives? (h : s.alternatives? = some alternatives) :
    s.interpret = Routine.union (alternatives.map interpret) := by
  obtain ⟨slot, hslot⟩ := exists_union h
  rw [← interpret_node, hslot, routine_union]

theorem exists_addAlternatives (h : s.alternatives? = some alternatives)
    (calls : List (Schema × Store)) : ∃ made, s.addAlternatives calls = some made ∧
      made.alternatives? = some (alternatives ++ calls.map Prod.fst) := by
  induction calls generalizing s alternatives with
  | nil => exact ⟨s, rfl, by rwa [List.map_nil, List.append_nil]⟩
  | cons call rest ih =>
    obtain ⟨slot, hslot⟩ := exists_union h
    have hadded : s.addAlternative call.1 call.2 =
        some (create call.2 fun slot => union slot (alternatives ++ [call.1])) := by
      rw [addAlternative, hslot]
    obtain ⟨made, hmade, hall⟩ := ih (s := (create call.2 fun slot =>
      union slot (alternatives ++ [call.1])).1) rfl
    refine ⟨made, ?_, by rwa [List.append_assoc] at hall⟩
    rw [addAlternatives, hadded]
    exact hmade

/-- Runs of schemas are their interpreters. -/
theorem map_interpret_of_runBy {runs : List Routine} (h : List.Forall₂ RunBy alternatives runs) :
    runs = alternatives.map interpret := by
  induction h with
  | nil => rfl
  | cons hfirst _ ih => rw [hfirst.eq_interpret, ih, List.map_cons]

/-- What is decided before an alternative is added stays decided. -/
theorem union_append_ok {xs ys : List Routine} {input : Option Value} {path : Path} {o : Output}
    (h : Routine.union xs input path = .ok o) : Routine.union (xs ++ ys) input path = .ok o := by
  obtain ⟨output, hfirst, rfl⟩ := ((Routine.triesInOrder_union xs).ok_iff input path o).mp h
  exact Routine.firstSuccess_of_firstOk hfirst ys []

/-! ## Main statement -/

/-- What unions do, whichever way they and their alternatives are run. -/
structure UnionsTryInOrder : Prop where
  /-- A new union has the alternatives that it is given. -/
  built : ∀ env alternatives σ, Blueprint.build env (.union alternatives) σ =
    (Blueprint.buildAll env alternatives σ).map fun made => ofAlternatives made.1 made.2
  /-- Every list of schemas makes a union, and every union comes from a list. -/
  made : (∀ alternatives σ, (ofAlternatives alternatives σ).1.alternatives? = some alternatives) ∧
    ∀ s : Schema, s.kind = .union → ∃ alternatives, s.alternatives? = some alternatives
  /-- A union succeeds if and only if an alternative does, as the first one does that succeeds. It
      fails if and only if all of them do, at its own path and about its own input, with their messages
      in their order. -/
  tries : ∀ (s : Schema) alternatives run runs, s.alternatives? = some alternatives → s.RunBy run →
    List.Forall₂ RunBy alternatives runs → Routine.TriesInOrder runs run
  /-- The order does not decide whether a union succeeds. -/
  order : ∀ (s t : Schema) xs ys, s.alternatives? = some xs → t.alternatives? = some ys → xs.Perm ys →
    ∀ r r', s.RunBy r → t.RunBy r' → ∀ input path,
      (∃ o, r input path = .ok o) ↔ ∃ o, r' input path = .ok o
  /-- Alternatives can be added to any union, and no success is changed by it. -/
  added : ∀ (s : Schema) alternatives (calls : List (Schema × Store)),
    s.alternatives? = some alternatives → ∃ made, s.addAlternatives calls = some made ∧
      made.alternatives? = some (alternatives ++ calls.map Prod.fst) ∧
      ∀ r r', s.RunBy r → made.RunBy r' → ∀ input path o, r input path = .ok o → r' input path = .ok o
  /-- A union with alternatives of its own can stand among others or have them take its place. -/
  flattens : ∀ (s t u : Schema) xs ys zs, xs ≠ [] → u.alternatives? = some xs →
    s.alternatives? = some (ys ++ [u] ++ zs) → t.alternatives? = some (ys ++ xs ++ zs) →
      s.SameOutcomes t

/-- **Unions.** A union takes the first success of its alternatives and else joins all their messages,
    and unions of unions can be flattened. -/
theorem unions_try_in_order : UnionsTryInOrder where
  built := build_union
  made := by
    refine ⟨fun _ _ => rfl, fun s hkind => ?_⟩
    induction s with
    | union slot alternatives => exact ⟨alternatives, rfl⟩
    | shared access inner ih => exact ih hkind
    | _ => cases hkind
  tries s alternatives run runs hs hrun hruns := by
    rw [hrun.eq_interpret, interpret_of_alternatives? hs, map_interpret_of_runBy hruns]
    exact Routine.triesInOrder_union _
  order s t xs ys hs ht hperm r r' hr hr' input path := by
    rw [hr.eq_interpret, hr'.eq_interpret, interpret_of_alternatives? hs,
      interpret_of_alternatives? ht, (Routine.triesInOrder_union _).accepts_iff,
      (Routine.triesInOrder_union _).accepts_iff]
    have hmem := fun r => (hperm.map interpret).mem_iff (a := r)
    simp only [hmem]
  added s alternatives calls hs := by
    obtain ⟨made, hmade, hall⟩ := exists_addAlternatives hs calls
    refine ⟨made, hmade, hall, fun r r' hr hr' input path o h => ?_⟩
    rw [hr.eq_interpret, interpret_of_alternatives? hs] at h
    rw [hr'.eq_interpret, interpret_of_alternatives? hall, List.map_append]
    exact union_append_ok h
  flattens s t u xs ys zs hxs hu hs ht := by
    refine .of_interpret_eq ?_
    have hruns : xs.map interpret ≠ [] := fun h => hxs (List.map_eq_nil_iff.mp h)
    rw [interpret_of_alternatives? hs, interpret_of_alternatives? ht, List.map_append,
      List.map_append, List.map_append, List.map_append, List.map_singleton,
      interpret_of_alternatives? hu, Routine.union_splice hruns]

/-- A union that has a union among its alternatives, compiled, and the same union without it. -/
def flagsRun : List Session.Step :=
  [.define "text" (.string (some 1) none none),
    .define "size" (.number {}),
    .define "flag" (.boolean {}),
    .define "short" (.optional (.string none (some 2) none)),
    .define "either" (.union [.share "text", .share "size"]),
    .define "nested" (.union [.share "flag", .share "either", .share "short"]),
    .compile "nested",
    .define "flat" (.union [.share "flag", .share "text", .share "size", .share "short"])]

open Session (reached noPatterns) in
/-- Both unions have the same outcomes, the messages included, and only the last alternative accepts the
    empty text and absence. -/
theorem unions_try_in_order_flags : ∃ nested ∈ (reached noPatterns flagsRun).nodes,
    ∃ flat ∈ (reached noPatterns flagsRun).nodes,
      (∀ input path, (nested.validate input path (reached noPatterns flagsRun).store).1 =
        flat.interpret input path) ∧
      (nested.validate none .root (reached noPatterns flagsRun).store).1 = .ok .absent ∧
      (nested.validate (some (.string "")) .root (reached noPatterns flagsRun).store).1 =
        .ok (.present (.value (.string ""))) ∧
      (nested.validate (some .null) .root (reached noPatterns flagsRun).store).1 =
        .error ⟨.root, .unionExhausted, "Expected boolean, received null; " ++
          "Expected string, received null; Expected number, received null; " ++
          "Expected string, received null", some .null⟩ := by
  have hnested := List.mem_of_getElem? (l := (reached noPatterns flagsRun).nodes) (i := 8) rfl
  have hflat := List.mem_of_getElem? (l := (reached noPatterns flagsRun).nodes) (i := 15) rfl
  refine ⟨_, hnested, _, hflat, ?_, rfl, rfl, rfl⟩
  refine unions_try_in_order.flattens _ _ ?either ?inner [?flag] [?short] ?some ?either_eq ?nested_eq
    ?flat_eq _ _ (.of_mem_nodes hnested) .interpreted
  case nested_eq => rfl
  case either_eq => rfl
  case flat_eq => rfl
  case some => exact List.cons_ne_nil _ _

end Schema

end JsonValidation
