import JsonValidation.Proofs.FieldNames
import JsonValidation.Proofs.SameOutcomes
import Mathlib.Data.List.Induction

/-!
# Shapes of objects

An object can be made from a list of declarations, by adding fields one by one and by extending another
object. All that counts is the list of declarations in their order: a name stands where it was first
declared, with the schema that was declared for it last.

* `Shape.Declares`: the fields that a list of declarations comes to. `Shape.declares_extend`: declaring
  more keeps it up.
* `Shape.extend_ofList`: a shape can be extended by a list of declarations or by the shape that the list
  comes to. `Shape.extend_assoc`: extending is associative.
* `Schema.ofShape`, `Schema.addFields`: the ways to make objects. `Schema.declared?`: what an object
  declares.
* `Schema.SameObject`: the same declarations, and so the same outcomes.
* `shapes_compose`: how the ways to make objects fit together.
-/

namespace JsonValidation

/-! ## Declarations -/

namespace Shape

variable {α : Type} {fields others more : List (String × α)} {name key : String} {field other : α}

/-- The fields that a list of declarations comes to. -/
structure Declares (declarations fields : List (String × α)) : Prop where
  once : (names fields).Nodup
  /-- A name stands where it occurs first. -/
  names_eq : names fields = (names declarations).eraseDups
  /-- It has the field that was declared for it last. -/
  lookup_eq : ∀ name, lookup? fields name = lookup? declarations.reverse name

theorem lookup?_append (fields others : List (String × α)) (name : String) :
    lookup? (fields ++ others) name = (lookup? fields name).or (lookup? others name) := by
  induction fields with
  | nil => rfl
  | cons first rest ih =>
    rw [List.cons_append, lookup?, lookup?, ih]
    split <;> rfl

theorem declares_nil : Declares ([] : List (String × α)) [] :=
  ⟨.nil, rfl, fun _ => rfl⟩

/-- One declaration more. -/
theorem Declares.declare {declarations : List (String × α)} (h : Declares declarations fields)
    (name : String) (field : α) :
    Declares (declarations ++ [(name, field)]) (declare fields name field) where
  once := nodup_names_declare h.once name field
  names_eq := by
    have hmem : name ∈ names fields ↔ name ∈ names declarations := by
      rw [h.names_eq, List.mem_eraseDups]
    have happend : names (declarations ++ [(name, field)]) = names declarations ++ [name] :=
      List.map_append
    rw [names_declare, happend, List.eraseDups_append, ← h.names_eq]
    by_cases hname : name ∈ names declarations
    · rw [if_pos (hmem.mpr hname)]
      simp [List.removeAll, hname]
    · rw [if_neg (mt hmem.mp hname)]
      simp [List.removeAll, hname, List.eraseDups_cons]
  lookup_eq key := by
    rw [List.reverse_append, List.reverse_singleton, lookup?_append, lookup_declare, ← h.lookup_eq,
      lookup?]
    split <;> rfl

/-- Many declarations more. -/
theorem Declares.extend {declarations : List (String × α)} (h : Declares declarations fields)
    (more : List (String × α)) : Declares (declarations ++ more) (extend fields more) := by
  induction more generalizing declarations fields with
  | nil => rwa [List.append_nil]
  | cons first rest ih =>
    have hrest := ih (h.declare first.1 first.2)
    rwa [List.append_assoc] at hrest

theorem declares_ofList (declarations : List (String × α)) :
    Declares declarations (ofList declarations) := declares_nil.extend declarations

/-! ## Extending -/

theorem extend_append (fields xs ys : List (String × α)) :
    extend fields (xs ++ ys) = extend (extend fields xs) ys := List.foldl_append

theorem ofList_append (xs ys : List (String × α)) : ofList (xs ++ ys) = extend (ofList xs) ys :=
  extend_append [] xs ys

theorem declare_declare (fields : List (String × α)) (name : String) (old new : α) :
    declare (declare fields name old) name new = declare fields name new := by
  induction fields with
  | nil => simp [declare]
  | cons first rest ih =>
    rw [declare, declare]
    split
    · rw [declare, if_pos rfl]
    · rename_i hkey
      rw [declare, if_neg hkey, ih]

/-- A name that has its place already can be declared before another one. Without a place the two names
    would be appended in the order in which they are declared. -/
theorem declare_comm (hne : key ≠ name) (hname : name ∈ names fields) (other field : α) :
    declare (declare fields key other) name field = declare (declare fields name field) key other := by
  induction fields with
  | nil => cases hname
  | cons first rest ih =>
    obtain ⟨first, old⟩ := first
    by_cases hkey : first = key
    · subst hkey
      simp [declare, hne]
    · by_cases hfirst : first = name
      · subst hfirst
        simp [declare, hkey]
      · have hrest : name ∈ names rest := (List.mem_cons.mp hname).resolve_left (Ne.symm hfirst)
        simp [declare, hkey, hfirst, ih hrest]

theorem mem_names_declare (fields : List (String × α)) (key : String) (field : α)
    (h : name ∈ names fields) : name ∈ names (declare fields key field) := by
  rw [names_declare]
  split
  · exact h
  · exact List.mem_append_left _ h

/-- A name that has its place already can be declared before others. -/
theorem declare_extend (hmore : name ∉ names more) (hname : name ∈ names fields) (field : α) :
    declare (extend fields more) name field = extend (declare fields name field) more := by
  induction more generalizing fields with
  | nil => rfl
  | cons first rest ih =>
    obtain ⟨hfirst, hrest⟩ := not_or.mp (mt List.mem_cons.mpr hmore)
    show declare (extend (declare fields first.1 first.2) rest) name field =
      extend (declare (declare fields name field) first.1 first.2) rest
    rw [ih hrest (mem_names_declare fields _ _ hname), declare_comm (Ne.symm hfirst) hname]

/-- A field can be declared in a shape before or after another one is extended by it. -/
theorem extend_declare (hnames : (names others).Nodup) (fields : List (String × α)) (name : String)
    (field : α) : extend fields (declare others name field) = declare (extend fields others) name field := by
  induction others generalizing fields with
  | nil => rfl
  | cons first rest ih =>
    obtain ⟨key, old⟩ := first
    obtain ⟨hkey, hrest⟩ := List.nodup_cons.mp hnames
    rw [declare]
    split
    · rename_i heq
      subst heq
      -- `rest` does not declare the name again, so its last schema may as well come first
      show extend (declare fields key field) rest = declare (extend (declare fields key old) rest) key field
      have hplace : key ∈ names (declare fields key old) := by
        rw [names_declare]
        split <;> simp [*]
      rw [declare_extend hkey hplace, declare_declare]
    · exact ih hrest (declare fields key old)

theorem declare_of_notMem (h : name ∉ names fields) (field : α) :
    declare fields name field = fields ++ [(name, field)] := by
  induction fields with
  | nil => rfl
  | cons first rest ih =>
    obtain ⟨hfirst, hrest⟩ := not_or.mp (mt List.mem_cons.mpr h)
    rw [declare, if_neg (Ne.symm hfirst), ih hrest, List.cons_append]

/-- Extending by a list of declarations is extending by the shape that the list comes to. -/
theorem extend_ofList (fields declarations : List (String × α)) :
    extend fields (ofList declarations) = extend fields declarations := by
  induction declarations using List.reverseRecOn with
  | nil => rfl
  | append_singleton early last ih =>
    rw [ofList_append, extend_append, ← ih]
    exact extend_declare (nodup_names_ofList early) fields last.1 last.2

/-- A shape with distinct names is what its own fields come to. -/
theorem ofList_of_nodup (h : (names fields).Nodup) : ofList fields = fields := by
  induction fields using List.reverseRecOn with
  | nil => rfl
  | append_singleton early last ih =>
    have hsplit : names (early ++ [last]) = names early ++ [last.1] := List.map_append
    rw [hsplit] at h
    obtain ⟨hearly, -, hdisjoint⟩ := List.nodup_append.mp h
    have hlast : last.1 ∉ names early := fun hmem => hdisjoint _ hmem _ (List.mem_singleton_self _) rfl
    rw [ofList_append, ih hearly]
    exact declare_of_notMem hlast last.2

theorem extend_assoc (hb : (names others).Nodup) (fields more : List (String × α)) :
    extend (extend fields others) more = extend fields (extend others more) := by
  rw [← extend_append, ← extend_ofList fields (others ++ more), ofList_append, ofList_of_nodup hb]

theorem declares_extend (hnames : (names fields).Nodup) (more : List (String × α)) :
    Declares (fields ++ more) (extend fields more) := by
  have hself := declares_ofList fields
  rw [ofList_of_nodup hnames] at hself
  exact hself.extend more

/-- A field that is declared already can be declared again. -/
theorem declare_of_mem (hnames : (names fields).Nodup) (h : (name, field) ∈ fields) :
    declare fields name field = fields := by
  induction fields with
  | nil => cases h
  | cons first rest ih =>
    obtain ⟨key, old⟩ := first
    obtain ⟨hkey, hrest⟩ := List.nodup_cons.mp hnames
    rcases List.mem_cons.mp h with heq | hmem
    · obtain ⟨rfl, rfl⟩ := Prod.mk.inj heq
      rw [declare, if_pos rfl]
    · have hne : key ≠ name := fun heq => hkey (List.mem_map.mpr ⟨_, hmem, heq.symm⟩)
      rw [declare, if_neg hne, ih hrest hmem]

/-- So can all fields of a shape. -/
theorem extend_of_subset (hnames : (names fields).Nodup) (h : ∀ f ∈ more, f ∈ fields) :
    extend fields more = fields := by
  induction more with
  | nil => rfl
  | cons first rest ih =>
    obtain ⟨hfirst, hrest⟩ := List.forall_mem_cons.mp h
    show extend (declare fields first.1 first.2) rest = fields
    rw [declare_of_mem hnames hfirst, ih hrest]

end Shape

/-! ## Objects -/

namespace Schema

open Shape (Declares names)

variable {s t : Schema} {fields others : List (String × Schema)} {message other : Option String}

/-- A new object with the fields of a list of declarations. -/
def ofShape (declarations : List (String × Schema)) (σ : Store) : Schema × Store :=
  create σ fun slot => object slot (Shape.ofList declarations) none

theorem build_object (env : Surroundings) (shape : List (String × Blueprint)) (σ : Store) :
    Blueprint.build env (.object shape) σ =
      (Blueprint.buildFields env shape σ).map fun made => ofShape made.1 made.2 := by
  rw [Blueprint.build]
  cases Blueprint.buildFields env shape σ <;> rfl

/-- Adds fields one after the other, each in whatever store the call is made in. -/
def addFields : Schema → List ((String × Schema) × Store) → Option Schema
  | s, [] => some s
  | s, (field, σ) :: rest => (s.addField field.1 field.2 σ).bind fun made => addFields made.1 rest

/-- What an object declares: its fields, and the message for inputs of another type. -/
def declared? : Schema → Option (List (String × Schema) × Option String)
  | object _ fields typeMessage => some (fields, typeMessage)
  | shared _ inner => inner.declared?
  | _ => none

/-- An object that declares each of its names once. -/
def IsObject (s : Schema) : Prop := ∃ d, s.declared? = some d ∧ (names d.1).Nodup

/-- Objects with the same fields in the same order and with the same message. They have the same
    outcomes. -/
structure SameObject (s t : Schema) : Prop where
  declared : ∃ d, s.declared? = some d ∧ t.declared? = some d
  outcomes : s.SameOutcomes t

theorem exists_object (h : s.declared? = some (fields, message)) :
    ∃ slot, s.node = object slot fields message := by
  induction s with
  | object slot fields message =>
    cases h
    exact ⟨slot, rfl⟩
  | shared access inner ih => exact ih h
  | _ => cases h

theorem SameObject.of_declared? {d : List (String × Schema) × Option String}
    (hs : s.declared? = some d) (ht : t.declared? = some d) : s.SameObject t where
  declared := ⟨d, hs, ht⟩
  outcomes := by
    obtain ⟨slot, hslot⟩ := exists_object hs
    obtain ⟨slot', hslot'⟩ := exists_object ht
    refine .of_interpret_eq ?_
    rw [← interpret_node, hslot, ← interpret_node t, hslot', ← routine_object, ← routine_object]

theorem declared?_ofShape (declarations : List (String × Schema)) (σ : Store) :
    (ofShape declarations σ).1.declared? = some (Shape.ofList declarations, none) := rfl

theorem isObject_ofShape (declarations : List (String × Schema)) (σ : Store) :
    (ofShape declarations σ).1.IsObject :=
  ⟨_, rfl, Shape.nodup_names_ofList declarations⟩

/-- An object is extended by the fields of another one, and keeps its own message. -/
theorem exists_extend (hs : s.declared? = some (fields, message))
    (ht : t.declared? = some (others, other)) (σ : Store) :
    ∃ made, s.extend t σ = some made ∧
      made.1.declared? = some (Shape.extend fields others, message) := by
  obtain ⟨slot, hslot⟩ := exists_object hs
  obtain ⟨slot', hslot'⟩ := exists_object ht
  refine ⟨create σ fun slot => object slot (Shape.extend fields others) message, ?_, rfl⟩
  rw [extend, hslot, hslot']

theorem exists_addField (hs : s.declared? = some (fields, message)) (name : String) (field : Schema)
    (σ : Store) : ∃ made, s.addField name field σ = some made ∧
      made.1.declared? = some (Shape.declare fields name field, message) := by
  obtain ⟨slot, hslot⟩ := exists_object hs
  refine ⟨create σ fun slot => object slot (Shape.declare fields name field) message, ?_, rfl⟩
  rw [addField, hslot]

/-- Adding fields one by one is extending by all of them. -/
theorem exists_addFields (hs : s.declared? = some (fields, message))
    (calls : List ((String × Schema) × Store)) :
    ∃ made, s.addFields calls = some made ∧
      made.declared? = some (Shape.extend fields (calls.map Prod.fst), message) := by
  induction calls generalizing s fields with
  | nil => exact ⟨s, rfl, hs⟩
  | cons call rest ih =>
    obtain ⟨added, hadded, hdeclared⟩ := exists_addField hs call.1.1 call.1.2 call.2
    obtain ⟨made, hmade, hall⟩ := ih hdeclared
    refine ⟨made, ?_, hall⟩
    rw [addFields, hadded]
    exact hmade

theorem exists_declared? (h : s.kind = .object) : ∃ d, s.declared? = some d := by
  induction s with
  | object slot fields message => exact ⟨_, rfl⟩
  | shared access inner ih => exact ih h
  | _ => cases h

/-- The objects of a session declare each of their names once. -/
theorem isObject_of_mem_nodes {dialect : PatternDialect} {steps : List Session.Step}
    (hs : s ∈ (Session.reached dialect steps).nodes) (hkind : s.kind = .object) : s.IsObject := by
  obtain ⟨⟨fields, message⟩, hdeclared⟩ := exists_declared? hkind
  obtain ⟨slot, hslot⟩ := exists_object hdeclared
  exact ⟨_, hdeclared, ((Session.reached_namesDistinct hs).fields_of_node hslot).1⟩

/-! ## Main statement -/

/-- How the ways to make objects fit together, in whatever stores the calls are made. -/
structure ShapesCompose : Prop where
  /-- The fields of a new object are declarations. -/
  built : ∀ env shape σ, Blueprint.build env (.object shape) σ =
    (Blueprint.buildFields env shape σ).map fun made => ofShape made.1 made.2
  /-- An object made from declarations has every name once, where it was declared first, with the
      schema that was declared for it last. -/
  declares : ∀ declarations σ, ∃ fields,
    (ofShape declarations σ).1.declared? = some (fields, none) ∧ Declares declarations fields
  /-- An object made from declarations and extended by one that is made from others is the object made
      from all of them. -/
  extended : ∀ xs ys σ σ' τ, ∃ made, (ofShape xs σ).1.extend (ofShape ys σ').1 τ = some made ∧
    ∀ υ, made.1.SameObject (ofShape (xs ++ ys) υ).1
  /-- So is the object to which the others are added one by one. -/
  added : ∀ xs (calls : List ((String × Schema) × Store)) σ,
    ∃ made, (ofShape xs σ).1.addFields calls = some made ∧
      ∀ υ, made.SameObject (ofShape (xs ++ calls.map Prod.fst) υ).1
  /-- Any object keeps its message when it is extended, whatever the message of the other one is, and
      has the fields of both. -/
  message : ∀ (a b : Schema) fields message others other σ, (names fields).Nodup →
    a.declared? = some (fields, message) → b.declared? = some (others, other) →
      ∃ made all, a.extend b σ = some made ∧ made.1.declared? = some (all, message) ∧
        Declares (fields ++ others) all
  assoc : ∀ a b c : Schema, a.IsObject → b.IsObject → c.IsObject → ∀ σ τ σ' τ',
    ∃ ab left bc right, a.extend b σ = some ab ∧ ab.1.extend c τ = some left ∧
      b.extend c σ' = some bc ∧ a.extend bc.1 τ' = some right ∧ left.1.SameObject right.1
  /-- An object without fields adds nothing. -/
  empty : ∀ a b : Schema, a.IsObject → ∀ other, b.declared? = some ([], other) →
    ∀ σ, ∃ made, a.extend b σ = some made ∧ made.1.SameObject a
  /-- Neither does the object itself. -/
  self : ∀ a : Schema, a.IsObject → ∀ σ, ∃ made, a.extend a σ = some made ∧ made.1.SameObject a
  /-- The objects that are made from declarations, and all objects of a session, have distinct names. -/
  distinct : (∀ declarations σ, (ofShape declarations σ).1.IsObject) ∧
    ∀ dialect steps, ∀ n ∈ (Session.reached dialect steps).nodes, n.kind = .object → n.IsObject

/-- **Shapes.** Objects are made by declarations, in one list or one after the other or as the fields of
    another object, and only the order of the declarations counts. -/
theorem shapes_compose : ShapesCompose where
  built := build_object
  declares declarations σ := ⟨_, declared?_ofShape declarations σ, Shape.declares_ofList declarations⟩
  extended xs ys σ σ' τ := by
    obtain ⟨made, hmade, hdeclared⟩ :=
      exists_extend (declared?_ofShape xs σ) (declared?_ofShape ys σ') τ
    refine ⟨made, hmade, fun υ => .of_declared? hdeclared ?_⟩
    rw [declared?_ofShape, Shape.ofList_append, Shape.extend_ofList]
  added xs calls σ := by
    obtain ⟨made, hmade, hdeclared⟩ := exists_addFields (declared?_ofShape xs σ) calls
    refine ⟨made, hmade, fun υ => .of_declared? hdeclared ?_⟩
    rw [declared?_ofShape, Shape.ofList_append]
  message a b fields message others other σ hnames ha hb := by
    obtain ⟨made, hmade, hdeclared⟩ := exists_extend ha hb σ
    exact ⟨made, _, hmade, hdeclared, Shape.declares_extend hnames others⟩
  assoc a b c ha hb hc σ τ σ' τ' := by
    obtain ⟨_, ha, -⟩ := ha
    obtain ⟨_, hb, hnames⟩ := hb
    obtain ⟨_, hc, -⟩ := hc
    obtain ⟨ab, hab, hleft⟩ := exists_extend ha hb σ
    obtain ⟨left, hmade, hleft⟩ := exists_extend hleft hc τ
    obtain ⟨bc, hbc, hright⟩ := exists_extend hb hc σ'
    obtain ⟨right, hmade', hright⟩ := exists_extend ha hright τ'
    refine ⟨ab, left, bc, right, hab, hmade, hbc, hmade', .of_declared? hleft ?_⟩
    rw [hright, Shape.extend_assoc hnames]
  empty a b ha other hb σ := by
    obtain ⟨_, ha, -⟩ := ha
    obtain ⟨made, hmade, hdeclared⟩ := exists_extend ha hb σ
    exact ⟨made, hmade, .of_declared? hdeclared ha⟩
  self a ha σ := by
    obtain ⟨_, ha, hnames⟩ := ha
    obtain ⟨made, hmade, hdeclared⟩ := exists_extend ha ha σ
    rw [Shape.extend_of_subset hnames fun _ hf => hf] at hdeclared
    exact ⟨made, hmade, .of_declared? hdeclared ha⟩
  distinct := ⟨isObject_ofShape, fun _ _ _ hn hkind => isObject_of_mem_nodes hn hkind⟩

/-- A page with a repeated name and a message of its own, and what it is extended by, in two ways. -/
def pagesRun : List Session.Step :=
  [.define "text" (.string (some 1) none none),
    .define "size" (.number {}),
    .define "page" (.set (.object [("title", .share "size"), ("body", .share "text"),
      ("title", .share "text")]) (.message "a page")),
    .define "pages" (.object [("body", .share "size"), ("next", .share "page")]),
    .define "book" (.object [("title", .share "size")]),
    .define "left" (.extend (.extend (.share "page") (.share "pages")) (.share "book")),
    .compile "left",
    .define "right" (.extend (.share "page") (.extend (.share "pages") (.share "book")))]

open Session (reached noPatterns) in
/-- Both ways to extend the page come to the same, compiled or not: a title, a body and what comes
    next, each with its last schema. -/
theorem shapes_compose_pages : ∃ page ∈ (reached noPatterns pagesRun).nodes,
    ∃ pages ∈ (reached noPatterns pagesRun).nodes, ∃ book ∈ (reached noPatterns pagesRun).nodes,
    ∃ left ∈ (reached noPatterns pagesRun).nodes, ∃ right ∈ (reached noPatterns pagesRun).nodes,
      (∃ ab σ τ, page.extend pages { next := 6 } = some ab ∧ ab.1.extend book σ = some (left, τ)) ∧
      (∃ bc σ τ, pages.extend book { next := 8 } = some bc ∧ page.extend bc.1 σ = some (right, τ)) ∧
      left.SameObject right ∧
      (∀ input path, (left.validate input path (reached noPatterns pagesRun).store).1 =
        (right.validate input path (reached noPatterns pagesRun).store).1) ∧
      left.declared?.map (fun d => (d.1.map fun f => (f.1, f.2.kind), d.2)) =
        some ([("title", .number), ("body", .number), ("next", .object)], some "a page") ∧
      (right.validate (some (.object [("body", .string "")])) .root
          (reached noPatterns pagesRun).store).1 =
        .error ⟨.ofField "title", .missingRequired, "Required", none⟩ := by
  have hpage := List.mem_of_getElem? (l := (reached noPatterns pagesRun).nodes) (i := 2) rfl
  have hpages := List.mem_of_getElem? (l := (reached noPatterns pagesRun).nodes) (i := 5) rfl
  have hbook := List.mem_of_getElem? (l := (reached noPatterns pagesRun).nodes) (i := 10) rfl
  have hleft := List.mem_of_getElem? (l := (reached noPatterns pagesRun).nodes) (i := 12) rfl
  have hright := List.mem_of_getElem? (l := (reached noPatterns pagesRun).nodes) (i := 18) rfl
  obtain ⟨ab, left, bc, right, hab, hmade, hbc, hmade', hsame⟩ := shapes_compose.assoc _ _ _
    (shapes_compose.distinct.2 _ _ _ hpage rfl) (shapes_compose.distinct.2 _ _ _ hpages rfl)
    (shapes_compose.distinct.2 _ _ _ hbook rfl) { next := 6 } { next := 7 } { next := 8 } { next := 9 }
  cases hab
  cases hmade
  cases hbc
  cases hmade'
  refine ⟨_, hpage, _, hpages, _, hbook, _, hleft, _, hright, ⟨_, { next := 7 }, _, rfl, rfl⟩,
    ⟨_, { next := 9 }, _, rfl, rfl⟩, hsame, ?_, rfl, rfl⟩
  exact hsame.outcomes _ _ (.validated _ _ hleft) (.validated _ _ hright)

end Schema

end JsonValidation
