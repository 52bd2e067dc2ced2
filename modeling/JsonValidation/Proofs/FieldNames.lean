import JsonValidation.Proofs.Sessions

/-!
# Names of fields

A field that is declared again replaces the field of its name, so no object that can be built declares
a name twice, and neither does any object below it.

* `Shape.names_declare`: the names after a declaration.
* `Schema.NamesDistinct`: every object of a schema declares each of its names once.
* `Blueprint.build_namesDistinct`: this holds of all schemas that blueprints make.
* `Session.reached_namesDistinct`: it holds of all nodes at all states of a run.
-/

namespace JsonValidation

/-! ## Declarations -/

namespace Shape

variable {α : Type}

/-- A name that was declared before keeps its place, and a new one comes last. -/
theorem names_declare (fields : List (String × α)) (name : String) (field : α) :
    names (declare fields name field) =
      if name ∈ names fields then names fields else names fields ++ [name] := by
  induction fields with
  | nil => rfl
  | cons first rest ih =>
    obtain ⟨key, old⟩ := first
    rw [declare]
    by_cases hkey : key = name
    · rw [if_pos hkey]
      simp [names, hkey]
    · rw [if_neg hkey]
      have hname : name ∈ names ((key, old) :: rest) ↔ name ∈ names rest := by
        simp [names, Ne.symm hkey]
      show key :: names (declare rest name field) = _
      rw [ih]
      simp only [hname]
      split <;> rfl

theorem nodup_names_declare {fields : List (String × α)} (h : (names fields).Nodup) (name : String)
    (field : α) : (names (declare fields name field)).Nodup := by
  rw [names_declare]
  split
  · exact h
  · rename_i hname
    refine List.nodup_append.mpr ⟨h, by simp, fun a ha b hb => ?_⟩
    rw [List.mem_singleton.mp hb]
    rintro rfl
    exact hname ha

theorem nodup_names_extend {other fields : List (String × α)} (h : (names fields).Nodup) :
    (names (extend fields other)).Nodup := by
  induction other generalizing fields with
  | nil => exact h
  | cons first rest ih => exact ih (nodup_names_declare h first.1 first.2)

theorem nodup_names_ofList (declarations : List (String × α)) :
    (names (ofList declarations)).Nodup := by
  have hempty : (names ([] : List (String × α))).Nodup := List.nodup_nil
  exact nodup_names_extend hempty

end Shape

/-! ## Schemas -/

namespace Schema

/-- The names that an object declares; no other node declares any. -/
def fieldNames : Schema → List String
  | object _ fields _ => Shape.names fields
  | shared _ inner => inner.fieldNames
  | _ => []

/-- Every object declares each of its names once. -/
def NamesDistinct : Schema → Prop := Everywhere fun n => n.fieldNames.Nodup

namespace NamesDistinct

variable {s : Schema} {σ : Store}

theorem child {c : Schema} (h : s.NamesDistinct) (hc : c ∈ s.children) : c.NamesDistinct :=
  Everywhere.child h hc

theorem node (h : s.NamesDistinct) : s.node.NamesDistinct := by
  intro n hn
  rw [nodes_node] at hn
  exact h n hn

theorem of_children (hnames : s.node.fieldNames.Nodup) (h : ∀ c ∈ s.children, c.NamesDistinct) :
    s.NamesDistinct := everywhere_iff.mpr ⟨hnames, h⟩

theorem of_leaf (hnames : s.node.fieldNames.Nodup) (hchildren : s.children = []) :
    s.NamesDistinct := of_children hnames (by simp [hchildren])

theorem of_child {c : Schema} (hnames : s.node.fieldNames.Nodup) (hchildren : s.children = [c])
    (h : c.NamesDistinct) : s.NamesDistinct := of_children hnames (by simpa [hchildren] using h)

/-- The names of an object itself. -/
theorem nodup_names {slot : Slot} {fields : List (String × Schema)} {typeMessage : Option String}
    (h : (object slot fields typeMessage).NamesDistinct) : (Shape.names fields).Nodup :=
  h _ (node_mem_nodes _)

theorem of_fields {slot : Slot} {fields : List (String × Schema)} {typeMessage : Option String}
    (hnames : (Shape.names fields).Nodup) (h : ∀ f ∈ fields, f.2.NamesDistinct) :
    (object slot fields typeMessage).NamesDistinct := by
  refine of_children hnames fun c hc => ?_
  obtain ⟨f, hf, rfl⟩ := List.mem_map.mp hc
  exact h f hf

theorem fields_of_node {slot : Slot} {fields : List (String × Schema)} {typeMessage : Option String}
    (h : s.NamesDistinct) (hnode : s.node = object slot fields typeMessage) :
    (Shape.names fields).Nodup ∧ ∀ f ∈ fields, f.2.NamesDistinct := by
  have hobject := h.node
  rw [hnode] at hobject
  exact ⟨hobject.nodup_names, fun f hf => hobject.child (List.mem_map_of_mem hf)⟩

/-- A copy declares what its original declares. -/
theorem copy (h : s.NamesDistinct) : ∀ σ : Store, (s.copy σ).1.NamesDistinct := by
  induction s with
  | array slot element settings ih =>
    intro σ
    exact of_child .nil rfl (ih (h.child (List.mem_singleton.mpr rfl)) σ)
  | object slot fields typeMessage =>
    exact fun σ => of_fields h.nodup_names fun f hf => h.child (List.mem_map_of_mem hf)
  | union slot alternatives =>
    intro σ
    refine of_children ?_ fun c hc => h.child hc
    exact .nil
  | optional slot inner ih =>
    intro σ
    exact of_child .nil rfl (ih (h.child (List.mem_singleton.mpr rfl)) σ)
  | nullable slot inner ih =>
    intro σ
    exact of_child .nil rfl (ih (h.child (List.mem_singleton.mpr rfl)) σ)
  | refinement slot inner accepts message ih =>
    intro σ
    exact of_child .nil rfl (ih (h.child (List.mem_singleton.mpr rfl)) σ)
  | pipe slot first second ihFirst ihSecond =>
    intro σ
    have hfirst := ihFirst (h.child List.mem_cons_self) σ
    have hsecond := ihSecond (h.child (List.mem_cons_of_mem _ List.mem_cons_self)) (first.copy σ).2
    exact of_children .nil (by simpa [Schema.copy, children] using ⟨hfirst, hsecond⟩)
  | shared access inner ih => exact fun σ => h
  | _ => exact fun σ => of_leaf .nil rfl

/-! ## Builders -/

theorem set (h : s.NamesDistinct) {setting : Setting} {result : Schema × Store}
    (hresult : s.set setting σ = some result) : result.1.NamesDistinct := by
  have hnode := h.node
  unfold Schema.set at hresult
  split at hresult
  · obtain ⟨settings, -, hresult⟩ := Option.bind_eq_some_iff.mp hresult
    obtain rfl := Option.some.inj hresult
    exact of_leaf .nil rfl
  · obtain ⟨settings, -, hresult⟩ := Option.bind_eq_some_iff.mp hresult
    obtain rfl := Option.some.inj hresult
    exact of_leaf .nil rfl
  · obtain ⟨settings, -, hresult⟩ := Option.bind_eq_some_iff.mp hresult
    obtain rfl := Option.some.inj hresult
    exact of_leaf .nil rfl
  · rename_i heq
    rw [heq] at hnode
    obtain ⟨settings, -, hresult⟩ := Option.bind_eq_some_iff.mp hresult
    obtain rfl := Option.some.inj hresult
    exact of_child .nil rfl ((hnode.child (List.mem_singleton.mpr rfl)).copy σ)
  · rename_i heq
    obtain ⟨hnames, hfields⟩ := h.fields_of_node heq
    split at hresult
    · obtain rfl := Option.some.inj hresult
      exact of_fields hnames hfields
    · cases hresult
  · cases hresult

theorem addField (h : s.NamesDistinct) {name : String} {field : Schema}
    (hfield : field.NamesDistinct) {result : Schema × Store}
    (hresult : s.addField name field σ = some result) : result.1.NamesDistinct := by
  unfold Schema.addField at hresult
  split at hresult
  · rename_i heq
    obtain ⟨hnames, hfields⟩ := h.fields_of_node heq
    obtain rfl := Option.some.inj hresult
    refine of_fields (Shape.nodup_names_declare hnames name field) fun f hf => ?_
    rcases Shape.mem_declare hf with rfl | hf
    · exact hfield
    · exact hfields f hf
  · cases hresult

theorem addOptionalField (h : s.NamesDistinct) {name : String} {field : Schema}
    (hfield : field.NamesDistinct) {result : Schema × Store}
    (hresult : s.addOptionalField name field σ = some result) : result.1.NamesDistinct := by
  have hoptional : (create σ fun slot => optional slot field).1.NamesDistinct :=
    of_child .nil rfl hfield
  exact h.addField hoptional hresult

theorem extend (h : s.NamesDistinct) {other : Schema} (hother : other.NamesDistinct)
    {result : Schema × Store} (hresult : s.extend other σ = some result) :
    result.1.NamesDistinct := by
  unfold Schema.extend at hresult
  split at hresult
  · rename_i heq heq'
    obtain ⟨hnames, hfields⟩ := h.fields_of_node heq
    obtain ⟨-, hothers⟩ := hother.fields_of_node heq'
    obtain rfl := Option.some.inj hresult
    refine of_fields (Shape.nodup_names_extend hnames) fun f hf => ?_
    rcases Shape.mem_extend hf with hf | hf
    · exact hfields f hf
    · exact hothers f hf
  · cases hresult

theorem addAlternative (h : s.NamesDistinct) {alternative : Schema}
    (halternative : alternative.NamesDistinct) {result : Schema × Store}
    (hresult : s.addAlternative alternative σ = some result) : result.1.NamesDistinct := by
  have hnode := h.node
  unfold Schema.addAlternative at hresult
  split at hresult
  · rename_i heq
    rw [heq] at hnode
    obtain rfl := Option.some.inj hresult
    refine of_children .nil fun c hc => ?_
    rcases List.mem_append.mp hc with hc | hc
    · exact hnode.child hc
    · rw [List.mem_singleton.mp hc]
      exact halternative
  · cases hresult

theorem asOptional (h : s.NamesDistinct) (σ : Store) : (s.asOptional σ).1.NamesDistinct :=
  of_child .nil rfl (h.copy σ)

theorem asNullable (h : s.NamesDistinct) (σ : Store) : (s.asNullable σ).1.NamesDistinct :=
  of_child .nil rfl (h.copy σ)

theorem refine (h : s.NamesDistinct) (accepts : Output → Bool) (message : String) (σ : Store) :
    (s.refine accepts message σ).1.NamesDistinct := of_child .nil rfl (h.copy σ)

theorem pipeTo (h : s.NamesDistinct) {next : Schema} (hnext : next.NamesDistinct) (σ : Store) :
    (s.pipeTo next σ).1.NamesDistinct := by
  have hcopy := h.copy σ
  exact of_children .nil (by simpa [Schema.pipeTo, create, children] using ⟨hcopy, hnext⟩)

end NamesDistinct

end Schema

/-! ## Blueprints -/

/-- All schemas that can be referred to declare their names once. -/
structure Surroundings.NamesDistinct (env : Surroundings) : Prop where
  defined : ∀ name s, env.defined? name = some s → s.NamesDistinct
  registered : ∀ name s, env.registered? name = some s → s.NamesDistinct

namespace Blueprint

open Schema

variable {env : Surroundings}

mutual

/-- **Names.** What a blueprint makes declares each of its names once. -/
theorem build_namesDistinct (henv : env.NamesDistinct) : ∀ (b : Blueprint) {σ : Store}
    {result : Schema × Store}, build env b σ = .ok result → result.1.NamesDistinct
  | .string minLen maxLen pattern, σ, result, h => by
    obtain ⟨pattern, -, h⟩ := exists_of_bind_eq_ok h
    cases h
    exact .of_leaf .nil rfl
  | .number options, σ, result, h => by
    cases h
    exact .of_leaf .nil rfl
  | .boolean options, σ, result, h => by
    cases h
    exact .of_leaf .nil rfl
  | .literal expected, σ, result, h => by
    cases h
    exact .of_leaf .nil rfl
  | .literalFloat x, σ, result, h => by
    rw [build] at h
    split at h
    · cases h
      exact .of_leaf .nil rfl
    · cases h
  | .array element options, σ, result, h => by
    obtain ⟨made, hmade, h⟩ := exists_of_bind_eq_ok h
    have helement := build_namesDistinct henv element hmade
    cases h
    exact .of_child .nil rfl helement
  | .object shape, σ, result, h => by
    obtain ⟨made, hmade, h⟩ := exists_of_bind_eq_ok h
    have hfields := buildFields_namesDistinct henv shape hmade
    cases h
    exact .of_fields (Shape.nodup_names_ofList _) fun f hf => hfields f (Shape.mem_ofList hf)
  | .union alternatives, σ, result, h => by
    obtain ⟨made, hmade, h⟩ := exists_of_bind_eq_ok h
    have halternatives := buildAll_namesDistinct henv alternatives hmade
    cases h
    exact .of_children .nil halternatives
  | .copyOf name, σ, result, h => by
    rw [build] at h
    split at h
    · rename_i schema hschema
      cases h
      exact (henv.defined name schema hschema).copy σ
    · cases h
  | .share name, σ, result, h => by
    rw [build] at h
    split at h
    · rename_i schema hschema
      cases h
      exact henv.defined name schema hschema
    · cases h
  | .registered name, σ, result, h => by
    rw [build] at h
    split at h
    · rename_i schema hschema
      cases h
      exact henv.registered name schema hschema
    · cases h
  | .set receiver setting, σ, result, h => by
    obtain ⟨made, hmade, h⟩ := exists_of_bind_eq_ok h
    exact (build_namesDistinct henv receiver hmade).set (applied_eq_ok h)
  | .setPattern receiver source, σ, result, h => by
    obtain ⟨made, hmade, h⟩ := exists_of_bind_eq_ok h
    obtain ⟨p, -, h⟩ := exists_of_bind_eq_ok h
    exact (build_namesDistinct henv receiver hmade).set (applied_eq_ok h)
  | .field receiver name schema, σ, result, h => by
    obtain ⟨made, hmade, h⟩ := exists_of_bind_eq_ok h
    obtain ⟨made', hmade', h⟩ := exists_of_bind_eq_ok h
    exact (build_namesDistinct henv receiver hmade).addField
      (build_namesDistinct henv schema hmade') (applied_eq_ok h)
  | .optionalField receiver name schema, σ, result, h => by
    obtain ⟨made, hmade, h⟩ := exists_of_bind_eq_ok h
    obtain ⟨made', hmade', h⟩ := exists_of_bind_eq_ok h
    exact (build_namesDistinct henv receiver hmade).addOptionalField
      (build_namesDistinct henv schema hmade') (applied_eq_ok h)
  | .extend receiver other, σ, result, h => by
    obtain ⟨made, hmade, h⟩ := exists_of_bind_eq_ok h
    obtain ⟨made', hmade', h⟩ := exists_of_bind_eq_ok h
    exact (build_namesDistinct henv receiver hmade).extend
      (build_namesDistinct henv other hmade') (applied_eq_ok h)
  | .alternative receiver schema, σ, result, h => by
    obtain ⟨made, hmade, h⟩ := exists_of_bind_eq_ok h
    obtain ⟨made', hmade', h⟩ := exists_of_bind_eq_ok h
    exact (build_namesDistinct henv receiver hmade).addAlternative
      (build_namesDistinct henv schema hmade') (applied_eq_ok h)
  | .optional receiver, σ, result, h => by
    obtain ⟨made, hmade, h⟩ := exists_of_bind_eq_ok h
    cases h
    exact (build_namesDistinct henv receiver hmade).asOptional made.2
  | .nullable receiver, σ, result, h => by
    obtain ⟨made, hmade, h⟩ := exists_of_bind_eq_ok h
    cases h
    exact (build_namesDistinct henv receiver hmade).asNullable made.2
  | .refine receiver accepts message, σ, result, h => by
    obtain ⟨made, hmade, h⟩ := exists_of_bind_eq_ok h
    cases h
    exact (build_namesDistinct henv receiver hmade).refine accepts _ made.2
  | .pipe receiver next, σ, result, h => by
    obtain ⟨made, hmade, h⟩ := exists_of_bind_eq_ok h
    obtain ⟨made', hmade', h⟩ := exists_of_bind_eq_ok h
    cases h
    exact (build_namesDistinct henv receiver hmade).pipeTo
      (build_namesDistinct henv next hmade') made'.2

/-- So do the fields that the blueprints of a shape make. -/
theorem buildFields_namesDistinct (henv : env.NamesDistinct) :
    ∀ (shape : List (String × Blueprint)) {σ : Store} {result : List (String × Schema) × Store},
      buildFields env shape σ = .ok result → ∀ f ∈ result.1, f.2.NamesDistinct
  | [], σ, result, h => by
    cases h
    simp
  | (name, blueprint) :: rest, σ, result, h => by
    obtain ⟨made, hmade, h⟩ := exists_of_bind_eq_ok h
    obtain ⟨fields, hfields, h⟩ := exists_of_bind_eq_ok h
    cases h
    exact List.forall_mem_cons.mpr ⟨build_namesDistinct henv blueprint hmade,
      buildFields_namesDistinct henv rest hfields⟩

/-- So do the schemas that a list of blueprints makes. -/
theorem buildAll_namesDistinct (henv : env.NamesDistinct) :
    ∀ (blueprints : List Blueprint) {σ : Store} {result : List Schema × Store},
      buildAll env blueprints σ = .ok result → ∀ a ∈ result.1, a.NamesDistinct
  | [], σ, result, h => by
    cases h
    simp
  | blueprint :: rest, σ, result, h => by
    obtain ⟨made, hmade, h⟩ := exists_of_bind_eq_ok h
    obtain ⟨schemas, hschemas, h⟩ := exists_of_bind_eq_ok h
    cases h
    exact List.forall_mem_cons.mpr ⟨build_namesDistinct henv blueprint hmade,
      buildAll_namesDistinct henv rest hschemas⟩

end

end Blueprint

/-! ## Sessions -/

namespace Session

/-- All schemas that a session knows declare their names once. -/
def NamesDistinct (s : Session) : Prop := ∀ root ∈ s.roots, root.NamesDistinct

variable {s : Session}

theorem NamesDistinct.surroundings (h : s.NamesDistinct) (dialect : PatternDialect) :
    (s.surroundings dialect).NamesDistinct :=
  ⟨fun _ _ hname => h _ (mem_roots_of_lookup? hname), fun _ _ hname => h _ (mem_roots_of_get? hname)⟩

/-- A session that knows at most one schema more. -/
theorem NamesDistinct.of_roots (h : s.NamesDistinct) {s' : Session} {schema : Schema}
    (hschema : schema.NamesDistinct)
    (hroots : ∀ root ∈ s'.roots, root = schema ∨ root ∈ s.roots) : s'.NamesDistinct := by
  intro root hroot
  rcases hroots root hroot with rfl | hroot
  · exact hschema
  · exact h root hroot

theorem NamesDistinct.withSchema (h : s.NamesDistinct) {name : String}
    {act : Schema → Session × Reply}
    (hact : ∀ schema, schema.NamesDistinct → (act schema).1.NamesDistinct) :
    (s.withSchema name act).1.NamesDistinct := by
  unfold Session.withSchema
  cases hname : Shape.lookup? s.schemas name with
  | none => exact h
  | some schema => exact hact schema (h schema (mem_roots_of_lookup? hname))

/-- Every step keeps it so: only building and naming change what a session knows. -/
theorem NamesDistinct.step (h : s.NamesDistinct) (dialect : PatternDialect) (st : Step) :
    (s.step dialect st).1.NamesDistinct := by
  cases st with
  | define name blueprint =>
    rw [Session.step]
    split
    · rename_i schema σ hbuild
      exact h.of_roots (blueprint.build_namesDistinct (h.surroundings dialect) hbuild)
        roots_of_declare
    · exact h
  | pick name source directions =>
    refine h.withSchema fun schema hschema => ?_
    split
    · rename_i node hnode
      exact h.of_roots (fun n hn => hschema n (nodes_of_locate (.inl hnode) n hn)) roots_of_declare
    · rename_i field hfield
      have hshared : (Schema.shared .field field).NamesDistinct :=
        fun n hn => hschema n (nodes_of_locate (.inr hfield) n hn)
      exact h.of_roots hshared roots_of_declare
    · exact h
    · exact h
  | register name blueprint =>
    rw [Session.step]
    split
    · rename_i schema σ hbuild
      split
      · rename_i registry hregister
        exact h.of_roots (blueprint.build_namesDistinct (h.surroundings dialect) hbuild)
          (roots_of_register hregister)
      · exact h
    · exact h
  | validateRegistered name value =>
    rw [Session.step]
    split <;> exact h
  | describe name directions =>
    refine h.withSchema fun schema _ => ?_
    split <;> exact h
  | compile name => exact h.withSchema fun _ _ => h
  | validate name input path => exact h.withSchema fun _ _ => h
  | interpret name input path => exact h.withSchema fun _ _ => h
  | fallback name input path => exact h.withSchema fun _ _ => h
  | assemble name input path => exact h.withSchema fun _ _ => h
  | batch name inputs => exact h.withSchema fun _ _ => h
  | names => exact h
  | get name =>
    rw [Session.step]
    split <;> exact h
  | warm order => exact h

theorem NamesDistinct.run (dialect : PatternDialect) (steps : List Step) :
    ∀ {s : Session}, s.NamesDistinct → (s.run dialect steps).1.NamesDistinct := by
  induction steps with
  | nil => exact fun h => h
  | cons first rest ih =>
    intro s h
    rw [run_cons]
    exact ih (h.step dialect first)

/-- At every state that can be reached, all nodes declare their names once. -/
theorem reached_namesDistinct {dialect : PatternDialect} {steps : List Step} {n : Schema}
    (hn : n ∈ (reached dialect steps).nodes) : n.NamesDistinct := by
  have hstart : NamesDistinct {} := by simp [NamesDistinct, roots]
  obtain ⟨root, hroot, hn⟩ := List.mem_flatMap.mp hn
  have hdistinct := hstart.run dialect steps root hroot
  exact fun m hm => hdistinct m (Schema.mem_nodes_trans hm hn)

end Session

end JsonValidation
