import JsonValidation.Proofs.Outputs
import JsonValidation.Proofs.SameOutcomes

/-!
# Outputs from their values

The value that an output stands for says less than the output: an absent output and one that wraps an
absent output stand for nothing both, and an absent item of an array would stand for null. But no schema
returns two outputs that only differ in this way. Given the schema, the output can be read off its value
again.

* `Schema.outputOf`: the output of a schema that stands for a value.
* `Schema.outputOf_toValue?`: what the interpreter returns is the output that its value gives.
* `Schema.same_outputOf`: equal values give equal outputs.
* `Wrapper`, `Output.TellsCases`: what the value of an output says of two wrappers.
* `erasure_loses_nothing`: a schema that is run in any ways.
-/

namespace JsonValidation

/-! ## Reading an output off its value -/

namespace Output

/-- The output of a schema that returns values of one type only. -/
def ofTyped : Value → Output
  | .string s => .string s
  | .number n => .number n
  | .bool b => .bool b
  | .object members => .object members
  | v => .value v

/-- The output of an array schema, given the outputs of its items. -/
def ofItems (item : Value → Output) : Value → Output
  | .array items => .array (items.map item)
  | v => .value v

/-- The output for a value that may be absent, given the outputs of values that are present. -/
def ofPresent (output : Value → Output) : Option Value → Output
  | none => .absent
  | some v => output v

end Output

namespace Schema

open Output

/-- The output of a schema that stands for a value, or for none. -/
def outputOf : Schema → Option Value → Output
  | string .., v => ofPresent ofTyped v
  | number .., v => ofPresent ofTyped v
  | boolean .., v => ofPresent ofTyped v
  | literal .., v => ofPresent .value v
  | array _ element _, v => ofPresent (ofItems fun item => element.outputOf (some item)) v
  | object .., v => ofPresent ofTyped v
  | union .., v => ofValue? v
  | optional _ inner, v => ofPresent (fun v => .present (inner.outputOf (some v))) v
  | nullable _ inner, v =>
    match v with
    | some .null => .null
    | v => .present (inner.outputOf v)
  | refinement _ inner _ _, v => inner.outputOf v
  | pipe _ _ second, v => second.outputOf v
  | shared _ inner, v => inner.outputOf v

theorem outputOf_nullable_of_ne (slot : Slot) (inner : Schema) {v : Option Value}
    (h : v ≠ some .null) : (nullable slot inner).outputOf v = .present (inner.outputOf v) := by
  rw [outputOf]
  exact h

/-- **Recovery.** Every output of the interpreter is the one that its value gives. -/
theorem outputOf_toValue? (s : Schema) : ∀ {input : Option Value} {path : Path} {o : Output},
    s.interpret input path = .ok o → s.outputOf o.toValue? = o := by
  induction s with
  | string slot settings =>
    intro input path o h
    obtain ⟨s, -, -, rfl⟩ := StringSettings.interpret_eq_ok.mp h
    rfl
  | number slot settings =>
    intro input path o h
    obtain ⟨n, -, -, rfl⟩ := NumberSettings.interpret_eq_ok.mp h
    rfl
  | boolean slot settings =>
    intro input path o h
    obtain ⟨b, -, -, rfl⟩ := BooleanSettings.interpret_eq_ok.mp h
    rfl
  | literal slot expected =>
    intro input path o h
    obtain ⟨v, -, -, rfl⟩ := Literal.validate_eq_ok.mp h
    rfl
  | array slot element settings ih =>
    intro input path o h
    obtain ⟨items, outputs, rfl, -, hitems, rfl⟩ := interpret_array_eq_ok.mp h
    obtain ⟨hlength, hall⟩ := eachItem_eq_ok.mp hitems
    -- the output of an item is present, so its value was not replaced by null
    have hitem : ∀ o ∈ outputs, element.outputOf (some (o.toValue?.getD .null)) = o := by
      intro o ho
      obtain ⟨i, hi⟩ := List.mem_iff_getElem?.mp ho
      have hlt : i < items.length := by
        have := (List.getElem?_eq_some_iff.mp hi).1
        omega
      have hrun := hall i items[i] o (List.getElem?_eq_getElem hlt) hi
      obtain ⟨w, hw, -⟩ := (element.interpret_prunes hrun).exists_value
      have hback := ih hrun
      rw [hw] at hback ⊢
      exact hback
    show Output.array ((Output.itemValues outputs).map _) = .array outputs
    rw [Output.itemValues_eq_map, List.map_map]
    exact congrArg Output.array ((List.map_congr_left hitem).trans (List.map_id' outputs))
  | object slot fields typeMessage ih =>
    intro input path o h
    obtain ⟨members, -, hfields⟩ := interpret_object_eq_ok.mp h
    obtain ⟨out, rfl, -⟩ := interpretFields_invariant (P := fun _ => True)
      (fun _ _ _ _ _ _ => trivial) trivial hfields
    rfl
  | union slot alternatives ih =>
    intro input path o h
    obtain ⟨a, -, output, -, rfl⟩ := interpret_union_eq_ok h
    exact congrArg Output.ofValue? (Output.toValue?_ofValue? _)
  | optional slot inner ih =>
    intro input path o h
    rcases interpret_optional_eq_ok.mp h with ⟨-, rfl⟩ | ⟨v, output, -, houtput, rfl⟩
    · rfl
    · -- a present input has an output that stands for a value
      obtain ⟨w, hw, -⟩ := (inner.interpret_prunes houtput).exists_value
      have hback := ih houtput
      rw [hw] at hback
      rw [Output.toValue?, hw]
      exact congrArg Output.present hback
  | nullable slot inner ih =>
    intro input path o h
    rcases interpret_nullable_eq_ok.mp h with ⟨-, rfl⟩ | ⟨output, hinput, houtput, rfl⟩
    · rfl
    · have hne : output.toValue? ≠ some .null := by
        rwa [ne_eq, (inner.interpret_prunes houtput).null_iff]
      rw [Output.toValue?, outputOf_nullable_of_ne _ _ hne, ih houtput]
  | refinement slot inner accepts message ih =>
    intro input path o h
    exact ih (interpret_refinement_eq_ok.mp h).1
  | pipe slot first second ihFirst ihSecond =>
    intro input path o h
    obtain ⟨output, -, hsecond⟩ := interpret_pipe_eq_ok.mp h
    exact ihSecond hsecond
  | shared access inner ih =>
    intro input path o h
    exact ih h

end Schema

/-! ## Equality as values -/

namespace Value

variable {v w : Value}

/-- Values that may be absent are equal as values if both are absent, or present and equal. -/
theorem option_beq_cases {v w : Option Value} (h : v == w) :
    (v = none ∧ w = none) ∨ ∃ a b, v = some a ∧ w = some b ∧ a.same b := by
  cases v with
  | none =>
    cases w with
    | none => exact .inl ⟨rfl, rfl⟩
    | some b => cases h
  | some a =>
    cases w with
    | none => cases h
    | some b => exact .inr ⟨a, b, rfl, rfl, h⟩

theorem eq_null_iff_of_same (h : v.same w) : v = .null ↔ w = .null := by
  cases v <;> cases w <;> simp_all [same]

end Value

namespace Output

variable {f : Value → Output} {v w : Value}

theorem same_ofTyped (h : v.same w) : (ofTyped v).same (ofTyped w) := by
  cases v <;> cases w <;> exact h

theorem sameItems_map (hf : ∀ v w, v.same w → (f v).same (f w)) :
    ∀ {xs ys : List Value}, Value.sameItems xs ys → sameItems (xs.map f) (ys.map f)
  | [], [], _ => rfl
  | v :: xs, w :: ys, h => by
    rw [Value.sameItems, Bool.and_eq_true] at h
    rw [List.map_cons, List.map_cons, sameItems, Bool.and_eq_true]
    exact ⟨hf v w h.1, sameItems_map hf h.2⟩

theorem same_ofItems (hf : ∀ v w, v.same w → (f v).same (f w)) (h : v.same w) :
    (ofItems f v).same (ofItems f w) := by
  cases v <;> cases w
  case array.array xs ys => exact sameItems_map hf h
  all_goals exact h

theorem same_ofPresent (hf : ∀ v w, v.same w → (f v).same (f w)) {v w : Option Value}
    (h : v == w) : (ofPresent f v).same (ofPresent f w) := by
  obtain ⟨rfl, rfl⟩ | ⟨a, b, rfl, rfl, hab⟩ := Value.option_beq_cases h
  · rfl
  · exact hf a b hab

end Output

/-- Values that are equal as values, as the two zeros are, give outputs that are equal as outputs. -/
theorem Schema.same_outputOf (s : Schema) {v w : Option Value} (h : v == w) :
    (s.outputOf v).same (s.outputOf w) := by
  induction s generalizing v w with
  | string slot settings => exact Output.same_ofPresent (fun _ _ => Output.same_ofTyped) h
  | number slot settings => exact Output.same_ofPresent (fun _ _ => Output.same_ofTyped) h
  | boolean slot settings => exact Output.same_ofPresent (fun _ _ => Output.same_ofTyped) h
  | literal slot expected => exact Output.same_ofPresent (f := .value) (fun _ _ h => h) h
  | array slot element settings ih =>
    exact Output.same_ofPresent (fun _ _ => Output.same_ofItems fun _ _ hitem => ih hitem) h
  | object slot fields typeMessage ih =>
    exact Output.same_ofPresent (fun _ _ => Output.same_ofTyped) h
  | union slot alternatives ih =>
    obtain ⟨rfl, rfl⟩ | ⟨a, b, rfl, rfl, hab⟩ := Value.option_beq_cases h
    · rfl
    · exact hab
  | optional slot inner ih =>
    obtain ⟨rfl, rfl⟩ | ⟨a, b, rfl, rfl, hab⟩ := Value.option_beq_cases h
    · rfl
    · exact ih h
  | nullable slot inner ih =>
    have hnull : v = some .null ↔ w = some .null := by
      obtain ⟨rfl, rfl⟩ | ⟨a, b, rfl, rfl, hab⟩ := Value.option_beq_cases h
      · rfl
      · simp [Value.eq_null_iff_of_same hab]
    by_cases hv : v = some .null
    · rw [hv, hnull.mp hv]
      rfl
    · rw [outputOf_nullable_of_ne _ _ hv, outputOf_nullable_of_ne _ _ (mt hnull.mpr hv)]
      exact ih h
  | refinement slot inner accepts message ih => exact ih h
  | pipe slot first second ihFirst ihSecond => exact ihSecond h
  | shared access inner ih => exact ih h

/-! ## Stacked wrappers -/

/-- A wrapper that accepts an input of its own. -/
inductive Wrapper where
  | optional
  | nullable
deriving DecidableEq

namespace Wrapper

/-- The input that a wrapper accepts itself: absence or null. -/
def input : Wrapper → Option Value
  | optional => none
  | nullable => some .null

/-- The output that a wrapper has for this input. -/
def output : Wrapper → Output
  | optional => .absent
  | nullable => .null

theorem output_ne_present (w : Wrapper) (o : Output) : w.output ≠ .present o := by
  cases w <;> nofun

theorem input_injective {w v : Wrapper} (h : w.input = v.input) : w = v := by
  cases w <;> cases v <;> simp_all [input]

end Wrapper

/-- Only the input that a wrapper accepts itself has a value that the wrapper accepts itself. -/
theorem Output.Prunes.eq_input_iff {o : Output} {input : Option Value} (h : o.Prunes input)
    (w : Wrapper) : o.toValue? = w.input ↔ input = w.input := by
  cases w with
  | optional => exact h.absent_iff
  | nullable => exact h.null_iff

/-- The wrapper that a schema is, and the schema in it. -/
def Schema.wraps? : Schema → Option (Wrapper × Schema)
  | optional _ inner => some (.optional, inner)
  | nullable _ inner => some (.nullable, inner)
  | shared _ inner => inner.wraps?
  | _ => none

/-- The value of an output of two wrappers tells which of three cases it is: the outer wrapper's own
    input, the inner one's, or another input, which both of them have wrapped. -/
structure Output.TellsCases (outer inner : Wrapper) (o : Output) : Prop where
  outer_iff : o = outer.output ↔ o.toValue? = outer.input
  inner_iff : o = .present inner.output ↔ o.toValue? = inner.input ∧ inner ≠ outer
  both_iff : (∃ x, o = .present (.present x)) ↔ o.toValue? ≠ outer.input ∧ o.toValue? ≠ inner.input

namespace Schema

variable {s t core : Schema} {outer inner w : Wrapper} {input : Option Value} {path : Path} {o : Output}

/-- What a wrapper returns is its own output or that of the schema in it, and the value tells which. -/
theorem wrapped_eq_ok (hs : s.wraps? = some (w, t)) (h : s.interpret input path = .ok o) :
    (o = w.output ∧ o.toValue? = w.input) ∨
      ∃ x, o = .present x ∧ o.toValue? ≠ w.input ∧ t.interpret input path = .ok x := by
  have hinput := (s.interpret_prunes h).eq_input_iff w
  induction s with
  | optional slot inner =>
    cases hs
    rcases interpret_optional_eq_ok.mp h with ⟨rfl, rfl⟩ | ⟨v, x, rfl, hx, rfl⟩
    · exact .inl ⟨rfl, rfl⟩
    · exact .inr ⟨x, rfl, mt hinput.mp nofun, hx⟩
  | nullable slot inner =>
    cases hs
    rcases interpret_nullable_eq_ok.mp h with ⟨rfl, rfl⟩ | ⟨x, hne, hx, rfl⟩
    · exact .inl ⟨rfl, rfl⟩
    · exact .inr ⟨x, rfl, mt hinput.mp hne, hx⟩
  | shared access inner ih => exact ih hs h
  | _ => cases hs

theorem tellsCases (hs : s.wraps? = some (outer, t)) (ht : t.wraps? = some (inner, core))
    (h : s.interpret input path = .ok o) : o.TellsCases outer inner := by
  rcases wrapped_eq_ok hs h with ⟨rfl, hvalue⟩ | ⟨x, rfl, hvalue, hx⟩
  · refine ⟨iff_of_true rfl hvalue, iff_of_false (outer.output_ne_present _) ?_,
      iff_of_false ?_ fun hne => hne.1 hvalue⟩
    · rintro ⟨hinner, hne⟩
      exact hne (Wrapper.input_injective (hinner.symm.trans hvalue))
    · rintro ⟨y, hy⟩
      exact outer.output_ne_present _ hy
  · have houter : .present x ≠ outer.output := (outer.output_ne_present x).symm
    rcases wrapped_eq_ok ht hx with ⟨rfl, hinner⟩ | ⟨y, rfl, hinner, -⟩
    · refine ⟨iff_of_false houter hvalue, iff_of_true rfl ⟨hinner, ?_⟩,
        iff_of_false ?_ fun hne => hne.2 hinner⟩
      · rintro rfl
        exact hvalue hinner
      · rintro ⟨y, hy⟩
        exact inner.output_ne_present y (Output.present.inj hy)
    · refine ⟨iff_of_false houter hvalue, iff_of_false ?_ fun h => hinner h.1,
        iff_of_true ⟨y, rfl⟩ ⟨hvalue, hinner⟩⟩
      intro hy
      exact inner.output_ne_present y (Output.present.inj hy).symm

/-! ## Main statement -/

/-- **Erasure.** Whichever ways a schema is run, two of its outputs that stand for the same value are
    the same output, and two that stand for equal values are equal. The output of two wrappers can be
    told from its value. -/
theorem erasure_loses_nothing (s : Schema) (r r' : Routine) (hr : s.RunBy r) (hr' : s.RunBy r') :
    (∀ input path o input' path' o', r input path = .ok o → r' input' path' = .ok o' →
      (o.toValue? = o'.toValue? → o = o') ∧ (o.toValue? == o'.toValue? → o == o')) ∧
    ∀ outer t inner core, s.wraps? = some (outer, t) → t.wraps? = some (inner, core) →
      ∀ input path o, r input path = .ok o → o.TellsCases outer inner := by
  rw [hr.eq_interpret, hr'.eq_interpret]
  refine ⟨fun input path o input' path' o' ho ho' => ⟨fun h => ?_, fun h => ?_⟩,
    fun outer t inner core hs ht input path o ho => tellsCases hs ht ho⟩
  · rw [← s.outputOf_toValue? ho, ← s.outputOf_toValue? ho', h]
  · have hsame := s.same_outputOf h
    rwa [s.outputOf_toValue? ho, s.outputOf_toValue? ho'] at hsame

/-- A card that may be absent and null. -/
def cardRun : List Session.Step :=
  [.define "text" (.string none none none),
    .define "card" (.object [("title", .share "text")]),
    .define "entry" (.optional (.nullable (.share "card"))),
    .compile "entry"]

open Session (reached noPatterns) in
/-- Two cards that differ in a member that no field declares have the same output, at different places
    and compiled or not. An entry that is absent, one that is null and a card are three cases. -/
theorem erasure_loses_nothing_cards : ∃ entry ∈ (reached noPatterns cardRun).nodes, ∃ o o',
    (entry.validate (some (.object [("draft", .null), ("title", .string "a")])) .root
      (reached noPatterns cardRun).store).1 = .ok o ∧
    entry.interpret (some (.object [("title", .string "a")])) (.ofField "body") = .ok o' ∧
    o.toValue? = o'.toValue? ∧ o = o' ∧
    (entry.validate none .root (reached noPatterns cardRun).store).1 = .ok .absent ∧
    (entry.validate (some .null) .root (reached noPatterns cardRun).store).1 =
      .ok (.present .null) ∧
    Output.TellsCases .optional .nullable (.present .null) ∧
    o.TellsCases .optional .nullable := by
  have hentry := List.mem_of_getElem? (l := (reached noPatterns cardRun).nodes) (i := 3) rfl
  obtain ⟨hlossless, hcases⟩ :=
    erasure_loses_nothing _ _ _ (.of_mem_nodes hentry) .interpreted
  refine ⟨_, hentry, .present (.present (.object [("title", .string "a")])),
    .present (.present (.object [("title", .string "a")])), rfl, rfl, rfl, ?_, rfl, rfl, ?_, ?_⟩
  · exact (hlossless (some (.object [("draft", .null), ("title", .string "a")])) .root _
      (some (.object [("title", .string "a")])) (.ofField "body") _ rfl rfl).1 rfl
  · exact hcases .optional _ .nullable _ rfl rfl (some .null) .root _ rfl
  · exact hcases .optional _ .nullable _ rfl rfl
      (some (.object [("draft", .null), ("title", .string "a")])) .root _ rfl

end Schema

end JsonValidation
