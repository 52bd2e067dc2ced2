import JsonValidation.Proofs.Outputs

/-!
# Failures point into inputs

The path of a failure continues the path at which the input stands, and what is new of it is a walk
down the input: only the last step may find nothing. The offending value is what the walk leads to, or
a pruning of it where a pipe or a refinement has looked at an output instead of the input.

* `Failure.Located`: a failure that is reached by a walk, up to a relation between its offending value
  and what the walk leads to.
* `Schema.interpret_located`: every failure of the interpreter is located so.
* `Failure.PointsInto`, `failure_localisation`: where the failures of a schema point to.
-/

namespace JsonValidation

open Value (KeptIn Reaches walk?)

theorem Path.append_left_cancel {p q r : Path} (h : p ++ q = p ++ r) : q = r := by
  have hsegments := congrArg Path.segments h
  rw [segments_append, segments_append] at hsegments
  exact Path.ext (List.append_cancel_left hsegments)

theorem Value.walk?_push (input : Option Value) (q : Path) (s : Segment) :
    walk? input (q.push s).segments = (walk? input q.segments).bind fun v => v.step? s :=
  walk?_append input q.segments [s]

/-- A walk that can be taken leads to nothing only if its last step does, or if it has no steps and
    there is no value to begin with. -/
theorem Value.walk?_eq_none_iff {input : Option Value} {r : Path} (h : Reaches input r.segments) :
    walk? input r.segments = none ↔ (r = .root ∧ input = none) ∨
      ∃ (q : Path) (s : Segment) (v : Value), r = q.push s ∧ walk? input q.segments = some v ∧
        v.step? s = none := by
  constructor
  · intro hnone
    rcases r.eq_root_or_push with rfl | ⟨q, s, rfl⟩
    · exact .inl ⟨rfl, hnone⟩
    · obtain ⟨v, hv, -⟩ := h q.segments s [] rfl
      rw [walk?_push, hv] at hnone
      exact .inr ⟨q, s, v, rfl, hv, hnone⟩
  · rintro (⟨rfl, rfl⟩ | ⟨q, s, v, rfl, hv, hnone⟩)
    · rfl
    · rw [walk?_push, hv]
      exact hnone

/-! ## Located failures -/

namespace Failure

variable {R : Option Value → Option Value → Prop} {f : Failure} {input : Option Value} {p r : Path}

/-- The failure stands at the end of a walk down an input that stands at a path, and its offending
    value is related to what the walk leads to. -/
structure Located (R : Option Value → Option Value → Prop) (f : Failure) (input : Option Value)
    (p r : Path) : Prop where
  path_eq : f.path = p ++ r
  reaches : Reaches input r.segments
  got : R f.got (walk? input r.segments)

/-- A relation that still holds when it is not a value that is looked at but what it was pruned
    from. -/
def Tolerates (R : Option Value → Option Value → Prop) : Prop :=
  ∀ got a b, R got a → KeptIn a b → R got b

/-- A failure about the input is located where the input stands. -/
theorem IsAbout.located (hR : ∀ v, R v v) (h : f.IsAbout input p) : f.Located R input p .root where
  path_eq := by rw [h.1, Path.append_root]
  reaches := Value.reaches_nil input
  got := by
    rw [h.2]
    exact hR input

/-- What is located below a member or an item is located below the whole value. -/
theorem Located.below {v : Value} {s : Segment} (hs : v.Admits s)
    (h : f.Located R (v.step? s) (p.push s) r) : f.Located R (some v) p ⟨s :: r.segments⟩ where
  path_eq := by rw [h.path_eq, Path.push_append]
  reaches := h.reaches.cons hs
  got := h.got

/-- What is located in a pruning is located in the original. -/
theorem Located.of_keptIn (hR : Tolerates R) {a b : Option Value} (h : f.Located R a p r)
    (hab : KeptIn a b) : f.Located R b p r where
  path_eq := h.path_eq
  reaches := h.reaches.of_keptIn hab
  got := hR _ _ _ h.got (hab.walk? r.segments)

end Failure

open Failure (Located Tolerates)

/-- **Failures.** Every failure of the interpreter is located in the input, up to a reflexive
    relation. Pipes and refinements look at outputs, and there the relation has to tolerate
    prunings. -/
theorem Schema.interpret_located {R : Option Value → Option Value → Prop} (hrefl : ∀ v, R v v)
    (s : Schema) (hR : s.Avoids [.pipe, .refinement] ∨ Tolerates R) :
    ∀ {input : Option Value} {path : Path} {f : Failure}, s.interpret input path = .error f →
      ∃ r, f.Located R input path r := by
  induction s with
  | string slot settings =>
    intro input path f h
    exact ⟨.root, (StringSettings.isAbout_of_interpret h).located hrefl⟩
  | number slot settings =>
    intro input path f h
    exact ⟨.root, (NumberSettings.isAbout_of_interpret h).located hrefl⟩
  | boolean slot settings =>
    intro input path f h
    exact ⟨.root, (BooleanSettings.isAbout_of_interpret h).located hrefl⟩
  | literal slot expected =>
    intro input path f h
    exact ⟨.root, (Literal.isAbout_of_validate h).located hrefl⟩
  | array slot element settings ih =>
    intro input path f h
    have helement := hR.imp_left fun h => h.child (c := element) (List.mem_singleton.mpr rfl)
    rcases interpret_array_eq_error h with habout | ⟨items, rfl, hitems⟩
    · exact ⟨.root, habout.located hrefl⟩
    · obtain ⟨i, item, hitem, hf⟩ := exists_of_eachItem_eq_error hitems
      rw [Nat.zero_add] at hf
      obtain ⟨r, hr⟩ := ih helement hf
      have hstep : (Value.array items).step? (.index i) = some item := hitem
      have hadmits : (Value.array items).Admits (.index i) := (List.getElem?_eq_some_iff.mp hitem).1
      rw [← hstep] at hr
      exact ⟨_, hr.below hadmits⟩
  | object slot fields typeMessage ih =>
    intro input path f h
    rcases interpret_object_eq_error h with habout | ⟨members, rfl, hfields⟩
    · exact ⟨.root, habout.located hrefl⟩
    · obtain ⟨field, hfield, hf⟩ := exists_of_interpretFields_eq_error hfields
      have hchild := hR.imp_left fun h => h.child (c := field.2) (List.mem_map_of_mem hfield)
      obtain ⟨r, hr⟩ := ih field hfield hchild hf
      have hadmits : (Value.object members).Admits (.field field.1) := trivial
      exact ⟨_, hr.below hadmits⟩
  | union slot alternatives =>
    intro input path f h
    exact ⟨.root, (interpret_union_eq_error h).located hrefl⟩
  | optional slot inner ih =>
    intro input path f h
    have hinner := hR.imp_left fun h => h.child (c := inner) (List.mem_singleton.mpr rfl)
    exact ih hinner (interpret_optional_eq_error.mp h).2
  | nullable slot inner ih =>
    intro input path f h
    have hinner := hR.imp_left fun h => h.child (c := inner) (List.mem_singleton.mpr rfl)
    exact ih hinner (interpret_nullable_eq_error.mp h).2
  | refinement slot inner accepts message ih =>
    intro input path f h
    have htolerates : Tolerates R := hR.resolve_left fun h => absurd h.kind_notMem (by simp [kind])
    rcases interpret_refinement_eq_error.mp h with hinner | ⟨output, houtput, -, rfl⟩
    · exact ih (.inr htolerates) hinner
    · -- the failure is about the output, which is a pruning of the input
      have habout : Failure.IsAbout ⟨path, .refinementFailed, message, output.toValue?⟩
          output.toValue? path := ⟨rfl, rfl⟩
      exact ⟨.root, (habout.located hrefl).of_keptIn htolerates (inner.interpret_prunes houtput).kept⟩
  | pipe slot first second ihFirst ihSecond =>
    intro input path f h
    have htolerates : Tolerates R := hR.resolve_left fun h => absurd h.kind_notMem (by simp [kind])
    rcases interpret_pipe_eq_error.mp h with hfirst | ⟨output, hfirst, hsecond⟩
    · exact ihFirst (.inr htolerates) hfirst
    · -- the second stage walks the output of the first one, which is a pruning of the input
      obtain ⟨r, hr⟩ := ihSecond (.inr htolerates) hsecond
      exact ⟨r, hr.of_keptIn htolerates (first.interpret_prunes hfirst).kept⟩
  | shared access inner ih =>
    intro input path f h
    exact ih hR h

/-! ## Where failures point to -/

namespace Failure

/-- The offending value is what a walk down the input leads to. It is absent only if the last step of
    the walk finds nothing, or if there was no input in the first place. -/
structure Exact (f : Failure) (input : Option Value) (r : Path) : Prop where
  got_eq : f.got = walk? input r.segments
  absent_iff : f.got = none ↔ (r = .root ∧ input = none) ∨
    ∃ (q : Path) (s : Segment) (v : Value), r = q.push s ∧ walk? input q.segments = some v ∧
      v.step? s = none

/-- Where a failure of a schema points to, in an input that stands at a path: to the end of a walk
    down the input. Its offending value is kept in what the walk leads to, and is just that if the
    schema has no pipe and no refinement. -/
def PointsInto (f : Failure) (s : Schema) (input : Option Value) (p : Path) : Prop :=
  ∃ r, f.Located KeptIn input p r ∧ (s.Avoids [.pipe, .refinement] → f.Exact input r)

end Failure

theorem Schema.interpret_pointsInto {s : Schema} {input : Option Value} {path : Path} {f : Failure}
    (h : s.interpret input path = .error f) : f.PointsInto s input path := by
  have htolerates : Tolerates KeptIn := fun got a b hgot hab => hgot.trans hab
  obtain ⟨r, hr⟩ := s.interpret_located KeptIn.refl (.inr htolerates) h
  refine ⟨r, hr, fun havoids => ?_⟩
  -- the walk is the same, since the path of the failure determines it
  obtain ⟨r', hr'⟩ := s.interpret_located (R := Eq) (fun _ => rfl) (.inl havoids) h
  have hsame : r' = r := Path.append_left_cancel (hr'.path_eq.symm.trans hr.path_eq)
  subst hsame
  refine ⟨hr'.got, ?_⟩
  rw [hr'.got]
  exact Value.walk?_eq_none_iff hr.reaches

/-- A refinement looks at the output, so its offending value can have lost members. -/
example : (Schema.refinement 0 (.object 0 [] none) (fun _ => false) "not empty").interpret
    (some (.object [("title", .null)])) .root =
      .error ⟨.root, .refinementFailed, "not empty", some (.object [])⟩ := rfl

namespace Session

/-- **Localisation of failures.** For every schema, and for every node in every state of a run: a
    failure points into the input that it was given. -/
theorem failure_localisation :
    (∀ (s : Schema) input path f, s.interpret input path = .error f → f.PointsInto s input path) ∧
    ∀ (dialect : PatternDialect) (steps : List Step), ∀ n ∈ (reached dialect steps).nodes,
      ∀ input path f, (n.validate input path (reached dialect steps).store).1 = .error f →
        f.PointsInto n input path := by
  refine ⟨fun s input path f h => Schema.interpret_pointsInto h,
    fun dialect steps n hn input path f h => ?_⟩
  rw [(reached_runsAsInterpreted hn).validate_eq] at h
  exact Schema.interpret_pointsInto h

theorem failure_localisation_words : ∃ n ∈ (reached noPatterns wordsRun).nodes, ∃ r,
    Located KeptIn ⟨⟨[.field "body", .field "words", .index 1]⟩, .lengthOutOfBounds,
        "String must be at least 1 characters", some (.string "")⟩
      (some (.object [("words", .array [.string "a", .string ""])])) (.ofField "body") r ∧
    Failure.Exact ⟨⟨[.field "body", .field "words", .index 1]⟩, .lengthOutOfBounds,
        "String must be at least 1 characters", some (.string "")⟩
      (some (.object [("words", .array [.string "a", .string ""])])) r := by
  have hn := List.mem_of_getElem? (l := (reached noPatterns wordsRun).nodes) (i := 3) rfl
  obtain ⟨r, hlocated, hexact⟩ := failure_localisation.2 noPatterns wordsRun _ hn
    (some (.object [("words", .array [.string "a", .string ""])])) (.ofField "body") _ rfl
  exact ⟨_, hn, r, hlocated, hexact (by decide)⟩

end Session

end JsonValidation
