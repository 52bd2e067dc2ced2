import JsonValidation.Proofs.FieldNames
import JsonValidation.Proofs.Outputs

/-!
# Validating an output again

An output is as good as its input: a schema without unions and pipes accepts the value of every output
that it returns, and makes the same output of it. So piping such a schema into itself changes nothing.
A union may take another alternative the second time, and a pipe starts over with its first stage.

* `Schema.Revalidates`: the value of an output makes this output again.
* `interpretFields_again`: the fields of an object, which find their own outputs the second time.
* `Schema.revalidates`: all schemas without unions and pipes.
* `revalidation_fixed_point`: the interpreter, and the routines that are compiled in a run.
-/

namespace JsonValidation

namespace Schema

/-- Whatever a schema makes of an input, it makes of the value of this output too, at every path. -/
def Revalidates (s : Schema) : Prop :=
  ∀ (input : Option Value) (path : Path) (o : Output), s.interpret input path = .ok o →
    ∀ path', s.interpret o.toValue? path' = .ok o

/-! ## Objects -/

/-- What is collected under a name that no field has stays as it was. -/
theorem lookup_of_interpretFields {fields : List (String × Schema)} {members collected out : Members}
    {path : Path} {name : String} (hname : name ∉ Shape.names fields)
    (h : interpretFields fields members path collected = .ok (.object out)) :
    Members.lookup name out = Members.lookup name collected := by
  have hkept : ∀ field ∈ fields, ∀ c output,
      Members.lookup name c = Members.lookup name collected →
      field.2.interpret (Members.lookup field.1 members) (path.pushField field.1) = .ok output →
        Members.lookup name (c.insertOutput field.1 output) = Members.lookup name collected := by
    intro field hfield c output hc _
    have hne : field.1 ≠ name := by
      rintro rfl
      exact hname (List.mem_map_of_mem hfield)
    rw [Members.lookup_insertOutput, if_neg hne, hc]
  obtain ⟨out', hout, hlookup⟩ := interpretFields_invariant
    (P := fun c => Members.lookup name c = Members.lookup name collected) hkept rfl h
  rw [Output.object.inj hout]
  exact hlookup

/-- Fields that are validated again, each on what it added to the output, add the same again. -/
theorem interpretFields_again {fields : List (String × Schema)} {members collected out : Members}
    {path : Path} (hfields : ∀ f ∈ fields, f.2.Revalidates) (hnames : (Shape.names fields).Nodup)
    (hcollected : ∀ name ∈ Shape.names fields, Members.lookup name collected = none)
    (h : interpretFields fields members path collected = .ok (.object out)) (again : Members)
    (path' : Path)
    (hagain : ∀ name ∈ Shape.names fields, Members.lookup name again = Members.lookup name out) :
    interpretFields fields again path' collected = .ok (.object out) := by
  induction fields generalizing collected with
  | nil => exact h
  | cons field rest ih =>
    obtain ⟨name, schema⟩ := field
    obtain ⟨hname, hrest⟩ := List.nodup_cons.mp hnames
    rw [interpretFields] at h ⊢
    split at h
    · rename_i output houtput
      -- no other field has this name, so the output holds what this field has added
      have hadded : Members.lookup name out = output.toValue? := by
        rw [lookup_of_interpretFields hname h, Members.lookup_insertOutput, if_pos rfl,
          hcollected name List.mem_cons_self, Option.or_none]
      have hsecond := hfields (name, schema) List.mem_cons_self _ _ _ houtput
        (path'.pushField name)
      rw [hagain name List.mem_cons_self, hadded, hsecond]
      refine ih (fun f hf => hfields f (List.mem_cons_of_mem _ hf)) hrest (fun key hkey => ?_) h
        fun key hkey => hagain key (List.mem_cons_of_mem _ hkey)
      have hne : name ≠ key := by
        rintro rfl
        exact hname hkey
      rw [Members.lookup_insertOutput, if_neg hne]
      exact hcollected key (List.mem_cons_of_mem _ hkey)
    · cases h

/-! ## Arrays -/

/-- Items that are validated again, each on the value of its output, give the same outputs again. -/
theorem eachItem_again {element : Schema} (helement : element.Revalidates) {items : List Value}
    {outputs : List Output} {path : Path}
    (h : eachItem (fun item => element.interpret (some item)) path 0 items = .ok outputs)
    (path' : Path) :
    eachItem (fun item => element.interpret (some item)) path' 0 (Output.itemValues outputs) =
      .ok outputs := by
  obtain ⟨hlength, hall⟩ := eachItem_eq_ok.mp h
  refine eachItem_eq_ok.mpr ⟨by simp [Output.itemValues_eq_map], fun i v o hv ho => ?_⟩
  have hi : i < items.length := by
    have := (List.getElem?_eq_some_iff.mp ho).1
    omega
  have hitem := hall i items[i] o (List.getElem?_eq_getElem hi) ho
  -- the output of an item is present, so its value is not replaced by null
  obtain ⟨w, hw, -⟩ := (element.interpret_prunes hitem).exists_value
  have hvalue : v = w := by
    rw [Output.getElem?_itemValues, ho] at hv
    simpa [hw] using hv.symm
  rw [hvalue, ← hw]
  exact helement _ _ _ hitem (path'.pushIndex (0 + i))

/-! ## Schemas -/

/-- **Validating again.** Schemas without unions and pipes make the same output of the value of an
    output, if no object declares a name twice. -/
theorem revalidates (s : Schema) (hkinds : s.Avoids [.union, .pipe]) (hnames : s.NamesDistinct) :
    s.Revalidates := by
  induction s with
  | string slot settings =>
    intro input path o h path'
    obtain ⟨s, rfl, hviolation, rfl⟩ := StringSettings.interpret_eq_ok.mp h
    exact StringSettings.interpret_eq_ok.mpr ⟨s, rfl, hviolation, rfl⟩
  | number slot settings =>
    intro input path o h path'
    obtain ⟨n, rfl, hviolation, rfl⟩ := NumberSettings.interpret_eq_ok.mp h
    exact NumberSettings.interpret_eq_ok.mpr ⟨n, rfl, hviolation, rfl⟩
  | boolean slot settings =>
    intro input path o h path'
    obtain ⟨b, rfl, hviolation, rfl⟩ := BooleanSettings.interpret_eq_ok.mp h
    exact BooleanSettings.interpret_eq_ok.mpr ⟨b, rfl, hviolation, rfl⟩
  | literal slot expected =>
    intro input path o h path'
    obtain ⟨v, rfl, haccepts, rfl⟩ := Literal.validate_eq_ok.mp h
    exact Literal.validate_eq_ok.mpr ⟨v, rfl, haccepts, rfl⟩
  | array slot element settings ih =>
    intro input path o h path'
    have hmem : element ∈ (array slot element settings).children := List.mem_singleton.mpr rfl
    obtain ⟨items, outputs, rfl, hviolation, hitems, rfl⟩ := interpret_array_eq_ok.mp h
    have hlength : (Output.itemValues outputs).length = items.length := by
      rw [Output.itemValues_eq_map, List.length_map, (eachItem_eq_ok.mp hitems).1]
    refine interpret_array_eq_ok.mpr ⟨_, outputs, rfl, by rwa [hlength], ?_, rfl⟩
    exact eachItem_again (ih (hkinds.child hmem) (hnames.child hmem)) hitems path'
  | object slot fields typeMessage ih =>
    intro input path o h path'
    obtain ⟨members, rfl, hfields⟩ := interpret_object_eq_ok.mp h
    obtain ⟨out, rfl, -⟩ := interpretFields_invariant (P := fun _ => True)
      (fun _ _ _ _ _ _ => trivial) trivial hfields
    have hall : ∀ f ∈ fields, f.2.Revalidates := by
      intro f hf
      have hmem : f.2 ∈ (object slot fields typeMessage).children := List.mem_map_of_mem hf
      exact ih f hf (hkinds.child hmem) (hnames.child hmem)
    refine interpret_object_eq_ok.mpr ⟨out, rfl, ?_⟩
    exact interpretFields_again hall hnames.nodup_names (fun _ _ => rfl) hfields out path'
      fun _ _ => rfl
  | union slot alternatives => exact absurd hkinds.kind_notMem (by simp [kind])
  | optional slot inner ih =>
    intro input path o h path'
    have hmem : inner ∈ (optional slot inner).children := List.mem_singleton.mpr rfl
    rcases interpret_optional_eq_ok.mp h with ⟨rfl, rfl⟩ | ⟨v, output, rfl, houtput, rfl⟩
    · exact interpret_optional_eq_ok.mpr (.inl ⟨rfl, rfl⟩)
    · -- a present input has a present output, which takes the same branch again
      obtain ⟨w, hw, -⟩ := (inner.interpret_prunes houtput).exists_value
      have hsecond := ih (hkinds.child hmem) (hnames.child hmem) _ _ _ houtput path'
      rw [hw] at hsecond
      exact interpret_optional_eq_ok.mpr (.inr ⟨w, output, hw, hsecond, rfl⟩)
  | nullable slot inner ih =>
    intro input path o h path'
    have hmem : inner ∈ (nullable slot inner).children := List.mem_singleton.mpr rfl
    rcases interpret_nullable_eq_ok.mp h with ⟨rfl, rfl⟩ | ⟨output, hinput, houtput, rfl⟩
    · exact interpret_nullable_eq_ok.mpr (.inl ⟨rfl, rfl⟩)
    · -- only null prunes to null, so the output takes the same branch again
      have hne : output.toValue? ≠ some .null := by
        rwa [ne_eq, (inner.interpret_prunes houtput).null_iff]
      have hsecond := ih (hkinds.child hmem) (hnames.child hmem) _ _ _ houtput path'
      exact interpret_nullable_eq_ok.mpr (.inr ⟨output, hne, hsecond, rfl⟩)
  | refinement slot inner accepts message ih =>
    intro input path o h path'
    have hmem : inner ∈ (refinement slot inner accepts message).children :=
      List.mem_singleton.mpr rfl
    obtain ⟨houtput, haccepts⟩ := interpret_refinement_eq_ok.mp h
    have hsecond := ih (hkinds.child hmem) (hnames.child hmem) _ _ _ houtput path'
    exact interpret_refinement_eq_ok.mpr ⟨hsecond, haccepts⟩
  | pipe slot first second => exact absurd hkinds.kind_notMem (by simp [kind])
  | shared access inner ih => exact ih hkinds hnames

/-- A pipe whose two stages both do what a schema does, which validates again, does what it does. -/
theorem Revalidates.interpret_pipe {s first second : Schema} (h : s.Revalidates)
    (hfirst : first.interpret = s.interpret) (hsecond : second.interpret = s.interpret)
    (slot : Slot) (input : Option Value) (path : Path) :
    (pipe slot first second).interpret input path = s.interpret input path := by
  cases hs : s.interpret input path with
  | error failure =>
    rw [← hfirst] at hs
    exact interpret_pipe_eq_error.mpr (.inl hs)
  | ok o =>
    have hagain := h input path o hs path
    rw [← hfirst] at hs
    rw [← hsecond] at hagain
    exact interpret_pipe_eq_ok.mpr ⟨o, hs, hagain⟩

end Schema

namespace Session

open Schema

/-- **Validating again.** For every schema without unions and pipes whose objects declare their
    names once, as all objects that are built do, and for every node without unions and pipes in
    every state of a run: validating the value of an output gives this output once more, and piping
    the schema into itself, or into a node that does the same, changes no outcome. -/
theorem revalidation_fixed_point :
    (∀ s : Schema, s.Avoids [.union, .pipe] → s.NamesDistinct →
      (∀ input path o, s.interpret input path = .ok o →
        ∀ path', s.interpret o.toValue? path' = .ok o) ∧
      ∀ slot input path, (pipe slot s s).interpret input path = s.interpret input path) ∧
    ∀ (dialect : PatternDialect) (steps : List Step), ∀ n ∈ (reached dialect steps).nodes,
      n.Avoids [.union, .pipe] →
      (∀ input path o, (n.validate input path (reached dialect steps).store).1 = .ok o →
        ∀ path', (n.validate o.toValue? path' (reached dialect steps).store).1 = .ok o) ∧
      ∀ m ∈ (reached dialect steps).nodes, m.interpret = n.interpret → ∀ input path,
        ((n.pipeTo m (reached dialect steps).store).1.validate input path
          (n.pipeTo m (reached dialect steps).store).2).1 =
        (n.validate input path (reached dialect steps).store).1 := by
  refine ⟨fun s hkinds hnames => ⟨s.revalidates hkinds hnames, ?_⟩, fun dialect steps n hn hkinds =>
    ⟨fun input path o h path' => ?_, fun m hm hsame input path => ?_⟩⟩
  · exact (s.revalidates hkinds hnames).interpret_pipe rfl rfl
  · rw [(reached_runsAsInterpreted hn).validate_eq] at h ⊢
    exact n.revalidates hkinds (reached_namesDistinct hn) input path o h path'
  · obtain ⟨owner, hsound⟩ := reached_sound dialect steps
    have hplaced := hsound.placed_of_mem_nodes hn
    -- the first stage is a copy of the node, which does what the node does
    obtain ⟨-, -, -, hcopy, -⟩ := n.copy_copied owner _ hsound.coherent hplaced
    obtain ⟨⟨owner', hextends, hpipe⟩, -⟩ :=
      pipeTo_built hsound.coherent hplaced (hsound.placed_of_mem_nodes hm)
    rw [(runsAsInterpreted hextends.coherent hpipe).validate_eq,
      (reached_runsAsInterpreted hn).validate_eq]
    exact (n.revalidates hkinds (reached_namesDistinct hn)).interpret_pipe hcopy hsame _
      input path

theorem revalidation_fixed_point_words : ∃ n ∈ (reached noPatterns wordsRun).nodes, ∃ o,
    (n.validate (some (.object [("title", .null), ("words", .array [.string "a"])])) .root
      (reached noPatterns wordsRun).store).1 = .ok o ∧
    (n.validate o.toValue? .root (reached noPatterns wordsRun).store).1 = .ok o ∧
    ∀ input path, ((n.pipeTo n (reached noPatterns wordsRun).store).1.validate input path
        (n.pipeTo n (reached noPatterns wordsRun).store).2).1 =
      (n.validate input path (reached noPatterns wordsRun).store).1 := by
  have hn := List.mem_of_getElem? (l := (reached noPatterns wordsRun).nodes) (i := 3) rfl
  obtain ⟨hagain, hpipe⟩ := revalidation_fixed_point.2 noPatterns wordsRun _ hn (by decide)
  refine ⟨_, hn, .object [("words", .array [.string "a"])], rfl, ?_, hpipe _ hn rfl⟩
  exact hagain (some (.object [("title", .null), ("words", .array [.string "a"])])) .root
    (.object [("words", .array [.string "a"])]) rfl .root

end Session

end JsonValidation
