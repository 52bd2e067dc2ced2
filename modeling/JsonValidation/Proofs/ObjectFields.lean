import JsonValidation.Proofs.FieldNames
import JsonValidation.Proofs.Revalidation

/-!
# Objects and their fields

An object is validated by its fields and by nothing else. It succeeds when all of them do, its output
has the declared names that the input has, and otherwise its failure is that of the first field that
fails. Members that no field declares do not matter, and the order of the fields matters only for
which failure is found first.

* `interpretFields_eq_ok_iff`, `interpretFields_eq_error_iff`: when the loop over the fields succeeds
  and with which failure it ends.
* `lookup_of_field`: what a field adds to the output. `Members.Sorted.ext`: an output is known by its
  members.
* `ValidatesFields`: what a way to run an object has to do with a way to run its fields.
  `ValidatesFields.alike`: objects that declare the same fields in another order.
* `objects_validate_fields`: the interpreter and the routines that are compiled in a run.
-/

namespace JsonValidation

/-! ## Members in order -/

namespace Members

theorem lookup_eq_none {name : String} {members : Members} (h : ∀ m ∈ members, name < m.1) :
    lookup name members = none := by
  cases hlookup : lookup name members with
  | none => rfl
  | some value => exact absurd (h _ (mem_of_lookup hlookup)) (String.lt_irrefl name)

theorem lookup_cons_self (name : String) (value : Value) (rest : Members) :
    lookup name ((name, value) :: rest) = some value := if_pos rfl

theorem lookup_cons_of_ne {name key : String} (h : key ≠ name) (value : Value) (rest : Members) :
    lookup name ((key, value) :: rest) = lookup name rest := if_neg h

/-- A name that is found does not come before the first name. -/
theorem Sorted.not_lt_first {name key : String} {value old : Value} {rest : Members}
    (h : Sorted ((key, value) :: rest)) (hname : lookup name ((key, value) :: rest) = some old) :
    ¬name < key := by
  intro hlt
  obtain ⟨hkey, -⟩ := sorted_cons.mp h
  rw [lookup_eq_none] at hname
  · cases hname
  · exact List.forall_mem_cons.mpr ⟨hlt, fun m hm => String.lt_trans hlt (hkey m hm)⟩

/-- Members in order are the same when the same is found under every name. -/
theorem Sorted.ext {a b : Members} (ha : a.Sorted) (hb : b.Sorted)
    (h : ∀ name, lookup name a = lookup name b) : a = b := by
  induction a generalizing b with
  | nil =>
    cases b with
    | nil => rfl
    | cons m bs => cases (h m.1).trans (lookup_cons_self m.1 m.2 bs)
  | cons m as ih =>
    obtain ⟨key, value⟩ := m
    cases b with
    | nil => cases (h key).symm.trans (lookup_cons_self key value as)
    | cons m bs =>
      obtain ⟨key', value'⟩ := m
      -- the first name of each is found in the other
      have hfound := (h key).symm.trans (lookup_cons_self key value as)
      have hfound' := (h key').trans (lookup_cons_self key' value' bs)
      obtain rfl : key = key' := String.le_antisymm (String.not_lt.mp (ha.not_lt_first hfound'))
        (String.not_lt.mp (hb.not_lt_first hfound))
      obtain rfl : value' = value :=
        Option.some.inj ((lookup_cons_self key value' bs).symm.trans hfound)
      obtain ⟨hkey, has⟩ := sorted_cons.mp ha
      obtain ⟨hkey', hbs⟩ := sorted_cons.mp hb
      rw [ih has hbs fun name => ?_]
      by_cases hname : key = name
      · subst hname
        rw [lookup_eq_none hkey, lookup_eq_none hkey']
      · rw [← lookup_cons_of_ne hname value' as, h name, lookup_cons_of_ne hname]

end Members

/-! ## The loop over the fields -/

namespace Schema

variable {fields : List (String × Schema)} {members collected out : Members} {path : Path}
  {f : Failure}

/-- What a field makes of the members of an object, given how its schema is run. -/
def fieldOutcome (run : Schema → Routine) (members : Members) (path : Path)
    (field : String × Schema) : Outcome Output :=
  run field.2 (Members.lookup field.1 members) (path.pushField field.1)

theorem interpretFields_cons (name : String) (schema : Schema) (rest : List (String × Schema)) :
    interpretFields ((name, schema) :: rest) members path collected =
      match fieldOutcome interpret members path (name, schema) with
      | .ok output => interpretFields rest members path (collected.insertOutput name output)
      | .error failure => .error failure := by
  rw [interpretFields]
  rfl

/-- The loop succeeds exactly when every field does. -/
theorem interpretFields_eq_ok_iff (collected : Members) :
    (∃ o, interpretFields fields members path collected = .ok o) ↔
      ∀ field ∈ fields, ∃ o, fieldOutcome interpret members path field = .ok o := by
  induction fields generalizing collected with
  | nil => simp [interpretFields]
  | cons field rest ih =>
    obtain ⟨name, schema⟩ := field
    rw [interpretFields_cons, List.forall_mem_cons]
    cases fieldOutcome interpret members path (name, schema) with
    | ok output => simp [ih]
    | error failure => simp

/-- It ends with the failure of the first field that fails. -/
theorem interpretFields_eq_error_iff (collected : Members) :
    interpretFields fields members path collected = .error f ↔
      ∃ early field late, fields = early ++ field :: late ∧
        (∀ e ∈ early, ∃ o, fieldOutcome interpret members path e = .ok o) ∧
        fieldOutcome interpret members path field = .error f := by
  induction fields generalizing collected with
  | nil => simp [interpretFields]
  | cons field rest ih =>
    obtain ⟨name, schema⟩ := field
    rw [interpretFields_cons]
    cases hfield : fieldOutcome interpret members path (name, schema) with
    | ok output =>
      show interpretFields rest members path _ = .error f ↔ _
      rw [ih]
      constructor
      · rintro ⟨early, failing, late, rfl, hearly, hf⟩
        exact ⟨(name, schema) :: early, failing, late, rfl,
          List.forall_mem_cons.mpr ⟨⟨output, hfield⟩, hearly⟩, hf⟩
      · rintro ⟨early, failing, late, heq, hearly, hf⟩
        cases early with
        | nil =>
          obtain ⟨rfl, -⟩ := List.cons.inj heq
          cases hfield.symm.trans hf
        | cons first early =>
          obtain ⟨-, rfl⟩ := List.cons.inj heq
          exact ⟨early, failing, late, rfl, (List.forall_mem_cons.mp hearly).2, hf⟩
    | error failure =>
      constructor
      · intro h
        cases h
        exact ⟨[], (name, schema), rest, rfl, by simp, hfield⟩
      · rintro ⟨early, failing, late, heq, hearly, hf⟩
        cases early with
        | nil =>
          obtain ⟨rfl, -⟩ := List.cons.inj heq
          exact hfield.symm.trans hf
        | cons first early =>
          obtain ⟨rfl, -⟩ := List.cons.inj heq
          obtain ⟨o, ho⟩ := (List.forall_mem_cons.mp hearly).1
          cases hfield.symm.trans ho

/-- Only declared members are looked at. -/
theorem interpretFields_congr {others : Members}
    (h : ∀ name ∈ Shape.names fields, Members.lookup name others = Members.lookup name members) :
    interpretFields fields others path collected =
      interpretFields fields members path collected := by
  induction fields generalizing collected with
  | nil => rfl
  | cons field rest ih =>
    obtain ⟨name, schema⟩ := field
    obtain ⟨hname, hrest⟩ := List.forall_mem_cons.mp h
    have hfield : fieldOutcome interpret others path (name, schema) =
        fieldOutcome interpret members path (name, schema) := by
      rw [fieldOutcome, fieldOutcome, hname]
    rw [interpretFields_cons, interpretFields_cons, hfield]
    cases fieldOutcome interpret members path (name, schema) with
    | ok output => exact ih hrest
    | error failure => rfl

/-- A field adds its output under its name. -/
theorem lookup_of_field (hnames : (Shape.names fields).Nodup)
    (hcollected : ∀ name ∈ Shape.names fields, Members.lookup name collected = none)
    (h : interpretFields fields members path collected = .ok (.object out)) :
    ∀ field ∈ fields, ∃ o, fieldOutcome interpret members path field = .ok o ∧
      Members.lookup field.1 out = o.toValue? := by
  induction fields generalizing collected with
  | nil => simp
  | cons field rest ih =>
    obtain ⟨name, schema⟩ := field
    obtain ⟨hname, hrest⟩ := List.nodup_cons.mp hnames
    obtain ⟨hcollected, hlater⟩ := List.forall_mem_cons.mp hcollected
    rw [interpretFields_cons] at h
    cases hfield : fieldOutcome interpret members path (name, schema) with
    | error failure =>
      rw [hfield] at h
      cases h
    | ok output =>
      rw [hfield] at h
      refine List.forall_mem_cons.mpr ⟨⟨output, hfield, ?_⟩, ih hrest (fun key hkey => ?_) h⟩
      · -- no later field has this name
        rw [lookup_of_interpretFields hname h, Members.lookup_insertOutput, if_pos rfl,
          hcollected, Option.or_none]
      · have hne : name ≠ key := by
          rintro rfl
          exact hname hkey
        rw [Members.lookup_insertOutput, if_neg hne]
        exact hlater key hkey

end Schema

/-! ## Objects -/

open Schema (fieldOutcome interpret object)

/-- What a way to run an object has to do with a way to run its fields. -/
structure ValidatesFields (each : Schema → Routine) (fields : List (String × Schema))
    (run : Routine) : Prop where
  ok_iff : ∀ members path, (∃ o, run (some (.object members)) path = .ok o) ↔
    ∀ field ∈ fields, ∃ o, fieldOutcome each members path field = .ok o
  /-- The output has the names that are declared and that the input has, with the outputs of their
      fields. -/
  output : ∀ members path o, run (some (.object members)) path = .ok o →
    ∃ out : Members, o = .object out ∧ out.Sorted ∧
      (∀ name, (Members.lookup name out).isSome ↔
        name ∈ Shape.names fields ∧ (Members.lookup name members).isSome) ∧
      ∀ field ∈ fields, ∃ output, fieldOutcome each members path field = .ok output ∧
        Members.lookup field.1 out = output.toValue?
  /-- The failure is that of the first field that fails, as it is. -/
  error_iff : ∀ members path f, run (some (.object members)) path = .error f ↔
    ∃ early field late, fields = early ++ field :: late ∧
      (∀ e ∈ early, ∃ o, fieldOutcome each members path e = .ok o) ∧
      fieldOutcome each members path field = .error f
  /-- Members that are not declared do not matter. -/
  congr : ∀ members others path,
    (∀ name ∈ Shape.names fields, Members.lookup name others = Members.lookup name members) →
      run (some (.object others)) path = run (some (.object members)) path

/-- Both succeed with the same output, or both fail. -/
def Outcome.Alike {α : Type} (a b : Outcome α) : Prop :=
  (∃ o, a = .ok o ∧ b = .ok o) ∨ ∃ f g, a = .error f ∧ b = .error g

/-- The same names are declared, in some order, with schemas that are interpreted in the same way. -/
def SameFields (fields others : List (String × Schema)) : Prop :=
  (fields.map fun f => (f.1, f.2.interpret)).Perm (others.map fun f => (f.1, f.2.interpret))

/-- An object is interpreted by its fields. -/
theorem validatesFields_interpret {fields : List (String × Schema)}
    (hnames : (Shape.names fields).Nodup) (slot : Slot) (typeMessage : Option String) :
    ValidatesFields interpret fields (object slot fields typeMessage).interpret where
  ok_iff members path := by
    rw [← Schema.interpretFields_eq_ok_iff [], interpret]
  output members path o h := by
    rw [interpret] at h
    obtain ⟨out, rfl, hsorted⟩ := Schema.interpretFields_invariant
      (fun field _ collected output (hsorted : collected.Sorted) _ =>
        hsorted.insertOutput field.1 output) Members.sorted_nil h
    have hfields := Schema.lookup_of_field hnames (fun _ _ => rfl) h
    refine ⟨out, rfl, hsorted, fun name => ?_, hfields⟩
    by_cases hname : name ∈ Shape.names fields
    · obtain ⟨field, hfield, rfl⟩ := List.mem_map.mp hname
      obtain ⟨output, houtput, hlookup⟩ := hfields field hfield
      -- an output is absent only if the member was
      have habsent := (field.2.interpret_prunes houtput).absent_iff
      rw [hlookup, Option.isSome_iff_ne_none, Option.isSome_iff_ne_none, ne_eq, habsent]
      exact (and_iff_right hname).symm
    · rw [Schema.lookup_of_interpretFields hname h]
      exact iff_of_false (by simp [Members.lookup]) fun hdeclared => hname hdeclared.1
  error_iff members path f := by
    rw [← Schema.interpretFields_eq_error_iff [], interpret]
  congr members others path h := by
    rw [interpret, interpret, Schema.interpretFields_congr h]

namespace SameFields

variable {fields others : List (String × Schema)}

theorem symm (h : SameFields fields others) : SameFields others fields := List.Perm.symm h

theorem of_perm (h : fields.Perm others) : SameFields fields others := h.map _

/-- A field has its counterpart among the others. -/
theorem exists_other (h : SameFields fields others) {field : String × Schema}
    (hfield : field ∈ fields) : ∃ other ∈ others, other.1 = field.1 ∧ ∀ members path,
      fieldOutcome interpret members path other = fieldOutcome interpret members path field := by
  obtain ⟨other, hother, heq⟩ :=
    List.mem_map.mp ((List.Perm.mem_iff h).mp (List.mem_map_of_mem hfield))
  obtain ⟨hname, hinterpret⟩ := Prod.mk.inj heq
  refine ⟨other, hother, hname, fun members path => ?_⟩
  rw [fieldOutcome, fieldOutcome, hname, hinterpret]

theorem nodup_names (h : SameFields fields others) (hnames : (Shape.names fields).Nodup) :
    (Shape.names others).Nodup := by
  have hperm := h.map Prod.fst
  rw [List.map_map, List.map_map] at hperm
  exact hperm.nodup_iff.mp hnames

theorem names_subset (h : SameFields fields others) {name : String}
    (hname : name ∈ Shape.names fields) : name ∈ Shape.names others := by
  obtain ⟨field, hfield, rfl⟩ := List.mem_map.mp hname
  obtain ⟨other, hother, hequal, -⟩ := h.exists_other hfield
  exact hequal ▸ List.mem_map_of_mem hother

end SameFields

namespace ValidatesFields

/-- Another way to run the fields and the object, with the same outcomes. -/
theorem of_eq {each each' : Schema → Routine} {fields : List (String × Schema)}
    {run run' : Routine} (h : ValidatesFields each fields run)
    (heach : ∀ field ∈ fields, each' field.2 = each field.2) (hrun : run' = run) :
    ValidatesFields each' fields run' := by
  subst hrun
  have hfield : ∀ members path, ∀ field ∈ fields,
      fieldOutcome each' members path field = fieldOutcome each members path field := by
    intro members path field hfield
    rw [fieldOutcome, fieldOutcome, heach field hfield]
  refine ⟨fun members path => ?_, fun members path o ho => ?_, fun members path f => ?_, h.congr⟩
  · rw [h.ok_iff]
    exact forall₂_congr fun field hmem => by rw [hfield members path field hmem]
  · obtain ⟨out, rfl, hsorted, hnames, hfields⟩ := h.output members path o ho
    refine ⟨out, rfl, hsorted, hnames, fun field hmem => ?_⟩
    rw [hfield members path field hmem]
    exact hfields field hmem
  · rw [h.error_iff]
    refine exists_congr fun early => exists_congr fun field => exists_congr fun late =>
      and_congr_right fun heq => ?_
    have hearly : ∀ e ∈ early, e ∈ fields := fun e he => heq ▸ List.mem_append_left _ he
    have hmem : field ∈ fields := heq ▸ List.mem_append_right _ List.mem_cons_self
    rw [hfield members path field hmem]
    exact and_congr_left' (forall₂_congr fun e he => by rw [hfield members path e (hearly e he)])

variable {fields others : List (String × Schema)} {run run' : Routine} {members : Members}
  {path : Path}

theorem exists_ok (h : ValidatesFields interpret fields run)
    (h' : ValidatesFields interpret others run') (hsame : SameFields fields others)
    (hrun : ∃ o, run (some (.object members)) path = .ok o) :
    ∃ o, run' (some (.object members)) path = .ok o := by
  refine (h'.ok_iff members path).mpr fun other hother => ?_
  obtain ⟨field, hfield, -, hequal⟩ := hsame.symm.exists_other hother
  rw [← hequal]
  exact (h.ok_iff members path).mp hrun field hfield

/-- The order of the fields does not matter for outputs. -/
theorem alike (h : ValidatesFields interpret fields run)
    (h' : ValidatesFields interpret others run') (hsame : SameFields fields others)
    (members : Members) (path : Path) :
    (run (some (.object members)) path).Alike (run' (some (.object members)) path) := by
  cases hrun : run (some (.object members)) path with
  | ok o =>
    obtain ⟨o', hrun'⟩ := exists_ok h h' hsame ⟨o, hrun⟩
    obtain ⟨out, rfl, hsorted, hnames, hfields⟩ := h.output members path o hrun
    obtain ⟨out', rfl, hsorted', hnames', hfields'⟩ := h'.output members path o' hrun'
    have hout : out' = out := by
      refine hsorted'.ext hsorted fun name => ?_
      by_cases hname : name ∈ Shape.names fields
      · obtain ⟨field, hfield, rfl⟩ := List.mem_map.mp hname
        obtain ⟨other, hother, hequal, houtcome⟩ := hsame.exists_other hfield
        obtain ⟨output, houtput, hlookup⟩ := hfields field hfield
        obtain ⟨output', houtput', hlookup'⟩ := hfields' other hother
        rw [houtcome, houtput] at houtput'
        rw [← hequal, hlookup', hequal, hlookup, Except.ok.inj houtput']
      · have hnone : Members.lookup name out = none :=
          Option.not_isSome_iff_eq_none.mp fun hsome => hname ((hnames name).mp hsome).1
        have hnone' : Members.lookup name out' = none := Option.not_isSome_iff_eq_none.mp
          fun hsome => hname (hsame.symm.names_subset ((hnames' name).mp hsome).1)
        rw [hnone, hnone']
    exact .inl ⟨.object out, rfl, by rw [hrun', hout]⟩
  | error f =>
    cases hrun' : run' (some (.object members)) path with
    | error g => exact .inr ⟨f, g, rfl, rfl⟩
    | ok o' =>
      obtain ⟨o, ho⟩ := exists_ok h' h hsame.symm ⟨o', hrun'⟩
      cases hrun.symm.trans ho

end ValidatesFields

namespace Session

variable {dialect : PatternDialect} {steps : List Step} {slot : Slot}
  {fields : List (String × Schema)} {typeMessage : Option String}

/-- A schema run by its compiled routine. -/
def validated (σ : Store) (s : Schema) : Routine := fun input path => (s.validate input path σ).1

/-- The nodes of a session, and the fields of its objects, are validated as they are interpreted. -/
theorem validated_eq (h : object slot fields typeMessage ∈ (reached dialect steps).nodes) :
    validated (reached dialect steps).store (object slot fields typeMessage) =
        (object slot fields typeMessage).interpret ∧
      ∀ field ∈ fields, validated (reached dialect steps).store field.2 = field.2.interpret := by
  obtain ⟨owner, hsound⟩ := reached_sound dialect steps
  have hplaced := hsound.placed_of_mem_nodes h
  refine ⟨funext fun input => funext fun path =>
    (Schema.runsAsInterpreted hsound.coherent hplaced).validate_eq input path, fun field hfield => ?_⟩
  have hchild := hplaced.child (c := field.2) (List.mem_map_of_mem hfield)
  exact funext fun input => funext fun path =>
    (Schema.runsAsInterpreted hsound.coherent hchild).validate_eq input path

/-- How objects are validated, interpreted and compiled. -/
structure ObjectsValidateFields : Prop where
  interpreted : ∀ slot fields typeMessage, (Shape.names fields).Nodup →
    ValidatesFields interpret fields (object slot fields typeMessage).interpret
  /-- Objects that declare the same fields in another order. -/
  reordered : ∀ slot fields typeMessage slot' others typeMessage',
    (Shape.names fields).Nodup → SameFields fields others → ∀ members path,
      ((object slot fields typeMessage).interpret (some (.object members)) path).Alike
        ((object slot' others typeMessage').interpret (some (.object members)) path)
  /-- The objects of a session always have distinct names, and are compiled together with their
      fields. -/
  compiled : ∀ dialect steps slot fields typeMessage,
    object slot fields typeMessage ∈ (reached dialect steps).nodes →
      (Shape.names fields).Nodup ∧
        ValidatesFields (validated (reached dialect steps).store) fields
          (validated (reached dialect steps).store (object slot fields typeMessage))
  compiled_reordered : ∀ dialect steps slot fields typeMessage dialect' steps' slot' others
    typeMessage', object slot fields typeMessage ∈ (reached dialect steps).nodes →
      object slot' others typeMessage' ∈ (reached dialect' steps').nodes →
        SameFields fields others → ∀ members path,
          (validated (reached dialect steps).store (object slot fields typeMessage)
            (some (.object members)) path).Alike
          (validated (reached dialect' steps').store (object slot' others typeMessage')
            (some (.object members)) path)

/-- **Objects.** The fields of an object decide its outcome on every object at every path, and their
    order decides only which failure it is. -/
theorem objects_validate_fields : ObjectsValidateFields where
  interpreted slot fields typeMessage hnames := validatesFields_interpret hnames slot typeMessage
  reordered slot fields typeMessage slot' others typeMessage' hnames hsame members path :=
    (validatesFields_interpret hnames slot typeMessage).alike
      (validatesFields_interpret (hsame.nodup_names hnames) slot' typeMessage') hsame members path
  compiled dialect steps slot fields typeMessage h := by
    have hnames := (reached_namesDistinct h).nodup_names
    obtain ⟨hobject, hfields⟩ := validated_eq h
    exact ⟨hnames, (validatesFields_interpret hnames slot typeMessage).of_eq hfields hobject⟩
  compiled_reordered dialect steps slot fields typeMessage dialect' steps' slot' others
      typeMessage' h h' hsame members path := by
    have hnames := (reached_namesDistinct h).nodup_names
    have hnames' := (reached_namesDistinct h').nodup_names
    rw [(validated_eq h).1, (validated_eq h').1]
    exact (validatesFields_interpret hnames slot typeMessage).alike
      (validatesFields_interpret hnames' slot' typeMessage') hsame members path

/-- Two objects that declare the same two fields in opposite orders. -/
def oppositeRun : List Step :=
  [.define "title" (.string (some 1) none none),
    .define "size" (.optional (.number {})),
    .define "page" (.field (.field (.object []) "title" (.share "title")) "size" (.share "size")),
    .define "leaf" (.field (.field (.object []) "size" (.share "size")) "title" (.share "title"))]

/-- A title and a size, declared in both orders. -/
theorem objects_validate_fields_opposite : ∃ page leaf title size,
    object page [("title", title), ("size", size)] none ∈ (reached noPatterns oppositeRun).nodes ∧
    object leaf [("size", size), ("title", title)] none ∈ (reached noPatterns oppositeRun).nodes ∧
    ValidatesFields (validated (reached noPatterns oppositeRun).store)
      [("title", title), ("size", size)]
      (validated (reached noPatterns oppositeRun).store
        (object page [("title", title), ("size", size)] none)) ∧
    ∀ members path,
      (validated (reached noPatterns oppositeRun).store
        (object page [("title", title), ("size", size)] none) (some (.object members)) path).Alike
      (validated (reached noPatterns oppositeRun).store
        (object leaf [("size", size), ("title", title)] none) (some (.object members)) path) := by
  let title : Schema := .shared .direct (.string 0 (.ofOptions { minLen := some 1 }))
  let size : Schema := .shared .direct (.optional 3 (.number 2 (.ofOptions {})))
  have hpage : object 6 [("title", title), ("size", size)] none ∈
      (reached noPatterns oppositeRun).nodes := List.mem_of_getElem? (i := 3) rfl
  have hleaf : object 9 [("size", size), ("title", title)] none ∈
      (reached noPatterns oppositeRun).nodes := List.mem_of_getElem? (i := 7) rfl
  have hsame : SameFields [("title", title), ("size", size)] [("size", size), ("title", title)] :=
    .of_perm (.swap _ _ _)
  exact ⟨6, 9, title, size, hpage, hleaf,
    (objects_validate_fields.compiled noPatterns oppositeRun _ _ _ hpage).2,
    objects_validate_fields.compiled_reordered noPatterns oppositeRun _ _ _ noPatterns oppositeRun
      _ _ _ hpage hleaf hsame⟩

end Session

end JsonValidation
