import JsonValidation.Proofs.Outcomes
import JsonValidation.Proofs.Pruning
import JsonValidation.Proofs.Replies

/-!
# Outputs are prunings of inputs

Validation never makes values up and never converts them: the value that an output stands for is the
input without the members that no field declares. An output stands for nothing exactly when the input
was absent, so the null that would stand for an absent item of an array is never needed.

* `Value.Ordered`: the names of every object are in order, and each occurs once.
* `Output.Complete`: no item of an array is absent.
* `Output.Prunes`: all that is said of an output and its input.
* `Schema.interpret_prunes`: every output of the interpreter prunes its input.
* `outputs_are_prunings`: so do the outputs of the routines that are compiled in a run.
-/

namespace JsonValidation

/-! ## Members in order -/

namespace Members

/-- The names come in increasing order, each once. -/
def Sorted (members : Members) : Prop := (members.map Prod.fst).Pairwise (· < ·)

theorem mem_insert {name : String} {value : Value} {members : Members} {m : String × Value}
    (h : m ∈ insert name value members) : m = (name, value) ∨ m ∈ members := by
  induction members with
  | nil => exact .inl (List.mem_singleton.mp h)
  | cons member rest ih =>
    obtain ⟨key, old⟩ := member
    rw [insert] at h
    split at h
    · exact List.mem_cons.mp h
    · split at h
      · exact (List.mem_cons.mp h).imp_right (List.mem_cons_of_mem _)
      · rcases List.mem_cons.mp h with rfl | h
        · exact .inr List.mem_cons_self
        · exact (ih h).imp_right (List.mem_cons_of_mem _)

theorem sorted_nil : Sorted [] := .nil

theorem sorted_cons {name : String} {value : Value} {members : Members} :
    Sorted ((name, value) :: members) ↔ (∀ m ∈ members, name < m.1) ∧ members.Sorted := by
  simp [Sorted]

/-- Insertion keeps the names in order. -/
theorem Sorted.insert {members : Members} (h : members.Sorted) (name : String) (value : Value) :
    (Members.insert name value members).Sorted := by
  induction members with
  | nil => simp [Members.insert, Sorted]
  | cons member rest ih =>
    obtain ⟨key, old⟩ := member
    obtain ⟨hkey, hrest⟩ := sorted_cons.mp h
    rw [Members.insert]
    split
    · rename_i hbefore
      refine sorted_cons.mpr ⟨fun m hm => ?_, h⟩
      rcases List.mem_cons.mp hm with rfl | hm
      · exact hbefore
      · exact String.lt_trans hbefore (hkey m hm)
    · rename_i hbefore
      split
      · rename_i heq
        rw [heq]
        exact sorted_cons.mpr ⟨hkey, hrest⟩
      · rename_i hne
        have hafter : key < name := Std.lt_of_le_of_ne (String.not_lt.mp hbefore) (Ne.symm hne)
        refine sorted_cons.mpr ⟨fun m hm => ?_, ih hrest⟩
        rcases mem_insert hm with rfl | hm
        · exact hafter
        · exact hkey m hm

theorem Sorted.insertOutput {members : Members} (h : members.Sorted) (name : String)
    (output : Output) : (members.insertOutput name output).Sorted := by
  unfold Members.insertOutput
  cases output.toValue? with
  | none => exact h
  | some value => exact h.insert name value

theorem lookup_insertOutput (members : Members) (name : String) (output : Output) (key : String) :
    lookup key (members.insertOutput name output) =
      if name = key then output.toValue?.or (lookup key members) else lookup key members := by
  unfold insertOutput
  cases output.toValue? with
  | none => simp
  | some value => simp [lookup_insert]

end Members

/-- The names of all objects in a value are in order. -/
inductive Value.Ordered : Value → Prop
  | null : Ordered .null
  | bool (b : Bool) : Ordered (.bool b)
  | number (n : Number) : Ordered (.number n)
  | string (s : String) : Ordered (.string s)
  | array {items : List Value} (ordered : ∀ v ∈ items, Ordered v) : Ordered (.array items)
  | object {members : Members} (sorted : members.Sorted) (ordered : ∀ m ∈ members, Ordered m.2) :
      Ordered (.object members)

/-! ## Outputs -/

namespace Output

mutual

/-- Every item of every array in an output stands for a value. -/
def Complete : Output → Prop
  | array items => CompleteItems items
  | present output => output.Complete
  | _ => True

/-- Every item stands for a value, and so does every item in it. -/
def CompleteItems : List Output → Prop
  | [] => True
  | item :: rest => item.toValue? ≠ none ∧ item.Complete ∧ CompleteItems rest

end

theorem completeItems_iff {items : List Output} :
    CompleteItems items ↔ ∀ item ∈ items, item.toValue? ≠ none ∧ item.Complete := by
  induction items with
  | nil => simp [CompleteItems]
  | cons item rest ih => simp [CompleteItems, ih, and_assoc]

theorem getElem?_itemValues (items : List Output) (i : Nat) :
    (itemValues items)[i]? = items[i]?.map fun item => item.toValue?.getD .null := by
  rw [itemValues_eq_map, List.getElem?_map]

/-- What an output has to do with the input that it was made from: it is absent exactly when the
    input is, its value is a pruning of the input, no absent item had to be replaced by null, and
    the objects in its value are in order. -/
structure Prunes (o : Output) (input : Option Value) : Prop where
  absent_iff : o.toValue? = none ↔ input = none
  kept : Value.KeptIn o.toValue? input
  complete : o.Complete
  ordered : ∀ v, o.toValue? = some v → v.Ordered

/-- An output that stands for the input itself. -/
theorem prunes_self {o : Output} {v : Value} (h : o.toValue? = some v) (hordered : v.Ordered)
    (hcomplete : o.Complete) : o.Prunes (some v) where
  absent_iff := by simp [h]
  kept := by
    rw [h]
    exact .refl _
  complete := hcomplete
  ordered w hw := by
    rw [← Option.some.inj (h.symm.trans hw)]
    exact hordered

theorem prunes_absent : absent.Prunes none where
  absent_iff := by simp [toValue?]
  kept := .refl _
  complete := trivial
  ordered v hv := by cases hv

variable {o : Output} {input : Option Value}

theorem Prunes.present (h : o.Prunes input) : (present o).Prunes input :=
  ⟨h.absent_iff, h.kept, h.complete, h.ordered⟩

/-- An output of a union, which is the bare value of an output of an alternative. -/
theorem Prunes.ofValue? (h : o.Prunes input) : (ofValue? o.toValue?).Prunes input where
  absent_iff := by rw [toValue?_ofValue?, h.absent_iff]
  kept := by
    rw [toValue?_ofValue?]
    exact h.kept
  complete := by
    cases o.toValue? with
    | none => trivial
    | some v => trivial
  ordered v hv := by
    rw [toValue?_ofValue?] at hv
    exact h.ordered v hv

/-- An output that was made from the value of another output. -/
theorem Prunes.trans {later : Output} (h : o.Prunes input) (hlater : later.Prunes o.toValue?) :
    later.Prunes input where
  absent_iff := by rw [hlater.absent_iff, h.absent_iff]
  kept := hlater.kept.trans h.kept
  complete := hlater.complete
  ordered := hlater.ordered

/-- What is made from a value stands for a value. -/
theorem Prunes.exists_value {v : Value} (h : o.Prunes (some v)) :
    ∃ w, o.toValue? = some w ∧ w.IsPruningOf v := by
  cases ho : o.toValue? with
  | none => exact absurd (h.absent_iff.mp ho) (by simp)
  | some w =>
    obtain ⟨v', hv', hw⟩ := h.kept w ho
    rw [Option.some.inj hv']
    exact ⟨w, rfl, hw⟩

/-- Only null is pruned to null. -/
theorem Prunes.null_iff (h : o.Prunes input) : o.toValue? = some .null ↔ input = some .null := by
  constructor
  · intro hnull
    obtain ⟨w, hw, hpruning⟩ := h.kept .null hnull
    rw [hw, Value.IsPruningOf.null_iff.mp hpruning]
  · rintro rfl
    obtain ⟨w, hw, hpruning⟩ := h.exists_value
    cases hpruning
    exact hw

/-- Outputs of the items of an array, item by item. -/
theorem prunes_array {items : List Value} {outputs : List Output}
    (hlength : outputs.length = items.length)
    (h : ∀ (i : Nat) v o, items[i]? = some v → outputs[i]? = some o → o.Prunes (some v)) :
    (array outputs).Prunes (some (.array items)) := by
  -- the item of the input that an output was made from
  have hitem : ∀ o ∈ outputs, ∃ v, o.Prunes (some v) := by
    intro o ho
    obtain ⟨i, hi⟩ := List.mem_iff_getElem?.mp ho
    have hlt : i < items.length := by
      have := (List.getElem?_eq_some_iff.mp hi).1
      omega
    exact ⟨items[i], h i items[i] o (List.getElem?_eq_getElem hlt) hi⟩
  have hpruned : (Value.array (itemValues outputs)).IsPruningOf (.array items) := by
    refine .array (by simp [itemValues_eq_map, hlength]) fun i v w hv hw => ?_
    rw [getElem?_itemValues] at hv
    obtain ⟨o, ho, rfl⟩ := Option.map_eq_some_iff.mp hv
    obtain ⟨x, hx, hxw⟩ := (h i w o hw ho).exists_value
    rw [hx]
    exact hxw
  refine ⟨by simp [toValue?], .of_isPruningOf hpruned, ?_, ?_⟩
  · refine completeItems_iff.mpr fun o ho => ?_
    obtain ⟨v, hv⟩ := hitem o ho
    exact ⟨by simp [hv.absent_iff], hv.complete⟩
  · rintro _ ⟨⟩
    refine .array fun v hv => ?_
    rw [itemValues_eq_map] at hv
    obtain ⟨o, ho, rfl⟩ := List.mem_map.mp hv
    obtain ⟨w, hw⟩ := hitem o ho
    obtain ⟨x, hx, -⟩ := hw.exists_value
    rw [hx]
    exact hw.ordered x hx

end Output

/-! ## Objects -/

/-- Members that were collected from the members of an object, field by field. -/
structure Members.CollectedFrom (collected members : Members) : Prop where
  kept : ∀ name, Value.KeptIn (lookup name collected) (lookup name members)
  sorted : collected.Sorted
  ordered : ∀ m ∈ collected, m.2.Ordered

namespace Members.CollectedFrom

variable {collected members : Members}

theorem nil : CollectedFrom [] members where
  kept name v hv := by cases hv
  sorted := sorted_nil
  ordered m hm := by cases hm

/-- One more field was validated. -/
theorem insertOutput (h : collected.CollectedFrom members) {name : String} {o : Output}
    (ho : o.Prunes (lookup name members)) :
    (collected.insertOutput name o).CollectedFrom members := by
  refine ⟨fun key v hv => ?_, ?_, ?_⟩
  · rw [lookup_insertOutput] at hv
    split at hv
    · rename_i hkey
      subst hkey
      rcases Option.or_eq_some_iff.mp hv with hv | ⟨-, hv⟩
      · exact ho.kept v hv
      · exact h.kept name v hv
    · exact h.kept key v hv
  · exact h.sorted.insertOutput name o
  · unfold Members.insertOutput
    cases hvalue : o.toValue? with
    | none => exact h.ordered
    | some value =>
      intro m hm
      rcases mem_insert hm with rfl | hm
      · exact ho.ordered value hvalue
      · exact h.ordered m hm

theorem prunes (h : collected.CollectedFrom members) :
    (Output.object collected).Prunes (some (.object members)) where
  absent_iff := by simp [Output.toValue?]
  kept := .of_isPruningOf (Value.isPruningOf_object_iff.mpr h.kept)
  complete := trivial
  ordered := by
    rintro _ ⟨⟩
    exact .object h.sorted h.ordered

end Members.CollectedFrom

/-! ## Schemas -/

theorem Literal.ordered_of_accepts {expected : Literal} {v : Value} (h : expected.accepts v) :
    v.Ordered := by
  cases v with
  | null => exact .null
  | bool b => exact .bool b
  | number n => exact .number n
  | string s => exact .string s
  | array items => cases expected <;> cases h
  | object members => cases expected <;> cases h

/-- **Outputs.** Every output of the interpreter prunes its input. -/
theorem Schema.interpret_prunes (s : Schema) : ∀ {input : Option Value} {path : Path} {o : Output},
    s.interpret input path = .ok o → o.Prunes input := by
  induction s with
  | string slot settings =>
    intro input path o h
    obtain ⟨s, rfl, -, rfl⟩ := StringSettings.interpret_eq_ok.mp h
    exact Output.prunes_self rfl (.string s) trivial
  | number slot settings =>
    intro input path o h
    obtain ⟨n, rfl, -, rfl⟩ := NumberSettings.interpret_eq_ok.mp h
    exact Output.prunes_self rfl (.number n) trivial
  | boolean slot settings =>
    intro input path o h
    obtain ⟨b, rfl, -, rfl⟩ := BooleanSettings.interpret_eq_ok.mp h
    exact Output.prunes_self rfl (.bool b) trivial
  | literal slot expected =>
    intro input path o h
    obtain ⟨v, rfl, haccepts, rfl⟩ := Literal.validate_eq_ok.mp h
    exact Output.prunes_self rfl (Literal.ordered_of_accepts haccepts) trivial
  | array slot element settings ih =>
    intro input path o h
    obtain ⟨items, outputs, rfl, -, hitems, rfl⟩ := interpret_array_eq_ok.mp h
    obtain ⟨hlength, hall⟩ := eachItem_eq_ok.mp hitems
    exact Output.prunes_array hlength fun i v o hv ho => ih (hall i v o hv ho)
  | object slot fields typeMessage ih =>
    intro input path o h
    obtain ⟨members, rfl, hfields⟩ := interpret_object_eq_ok.mp h
    -- every field that succeeds adds a pruning of the member that it was given
    obtain ⟨out, rfl, hout⟩ := interpretFields_invariant (P := fun c => c.CollectedFrom members)
      (fun field hfield collected output hcollected houtput =>
        hcollected.insertOutput (ih field hfield houtput)) .nil hfields
    exact hout.prunes
  | union slot alternatives ih =>
    intro input path o h
    obtain ⟨a, ha, output, houtput, rfl⟩ := interpret_union_eq_ok h
    exact (ih a ha houtput).ofValue?
  | optional slot inner ih =>
    intro input path o h
    rcases interpret_optional_eq_ok.mp h with ⟨rfl, rfl⟩ | ⟨v, output, rfl, houtput, rfl⟩
    · exact Output.prunes_absent
    · exact (ih houtput).present
  | nullable slot inner ih =>
    intro input path o h
    rcases interpret_nullable_eq_ok.mp h with ⟨rfl, rfl⟩ | ⟨output, -, houtput, rfl⟩
    · exact Output.prunes_self rfl .null trivial
    · exact (ih houtput).present
  | refinement slot inner accepts message ih =>
    intro input path o h
    exact ih (interpret_refinement_eq_ok.mp h).1
  | pipe slot first second ihFirst ihSecond =>
    intro input path o h
    obtain ⟨output, hfirst, hsecond⟩ := interpret_pipe_eq_ok.mp h
    exact (ihFirst hfirst).trans (ihSecond hsecond)
  | shared access inner ih =>
    intro input path o h
    exact ih h

namespace Session

/-- **Outputs are prunings.** For every schema, and for every node in every state of a run: an
    output is absent exactly when its input was, and otherwise its value is the input with members
    of objects taken out. No null ever replaces an absent item. -/
theorem outputs_are_prunings :
    (∀ (s : Schema) input path o, s.interpret input path = .ok o → o.Prunes input) ∧
    ∀ (dialect : PatternDialect) (steps : List Step), ∀ n ∈ (reached dialect steps).nodes,
      ∀ input path o, (n.validate input path (reached dialect steps).store).1 = .ok o →
        o.Prunes input := by
  refine ⟨fun s input path o h => s.interpret_prunes h, fun dialect steps n hn input path o h => ?_⟩
  rw [(reached_runsAsInterpreted hn).validate_eq] at h
  exact n.interpret_prunes h

theorem outputs_are_prunings_words : ∃ n ∈ (reached noPatterns wordsRun).nodes, ∃ o,
    (n.validate (some (.object [("title", .null), ("words", .array [.string "a"])])) .root
      (reached noPatterns wordsRun).store).1 = .ok o ∧
    o.toValue? = some (.object [("words", .array [.string "a"])]) ∧
    o.Prunes (some (.object [("title", .null), ("words", .array [.string "a"])])) := by
  have hn := List.mem_of_getElem? (l := (reached noPatterns wordsRun).nodes) (i := 3) rfl
  refine ⟨_, hn, .object [("words", .array [.string "a"])], rfl, rfl, ?_⟩
  exact outputs_are_prunings.2 noPatterns wordsRun _ hn _ .root _ rfl

end Session

end JsonValidation
