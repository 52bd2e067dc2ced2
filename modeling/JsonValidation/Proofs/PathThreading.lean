import JsonValidation.Proofs.Replies

/-!
# Paths in failures

The path at which an input stands only shows in the path of a failure. What is validated further down
has that outcome in which the path to the place of mounting is put in front.

* `Failure.under`, `Outcome.under`: a path put in front.
* `Schema.interpret_under`: the interpreter, for all schemas.
* `path_threading`: the interpreter and the routines that are compiled in a run.
-/

namespace JsonValidation

/-- The failure with a path put in front of its own path. -/
def Failure.under (p : Path) (f : Failure) : Failure := { f with path := p ++ f.path }

/-- The outcome with a path put in front of the path of its failure, if it is one. -/
def Outcome.under {α : Type} (p : Path) (outcome : Outcome α) : Outcome α :=
  outcome.mapError (Failure.under p)

/-- A routine whose outcome at one path after another is that at the second path, with the first path
    put in front. -/
def Routine.Threads (r : Routine) : Prop :=
  ∀ input p q, r input (p ++ q) = (r input q).under p

theorem Path.append_pushField (p q : Path) (name : String) :
    (p ++ q).pushField name = p ++ q.pushField name := (append_push p q _).symm

theorem Path.append_pushIndex (p q : Path) (position : Nat) :
    (p ++ q).pushIndex position = p ++ q.pushIndex position := (append_push p q _).symm

namespace Outcome

variable {α β : Type} (p : Path)

theorem under_ok (a : α) : Outcome.under p (.ok a) = .ok a := rfl

theorem under_map (outcome : Outcome α) (f : α → β) :
    Outcome.under p (outcome.map f) = (outcome.under p).map f := by
  cases outcome <;> rfl

end Outcome

open Outcome

/-! ## Nodes without children -/

theorem StringSettings.interpret_threads (settings : StringSettings) :
    Routine.Threads settings.interpret := by
  intro input p q
  unfold interpret
  split
  · cases settings.violation? _ <;> rfl
  · rfl

theorem NumberSettings.interpret_threads (settings : NumberSettings) :
    Routine.Threads settings.interpret := by
  intro input p q
  unfold interpret
  split
  · cases settings.violation? _ <;> rfl
  · rfl

theorem BooleanSettings.interpret_threads (settings : BooleanSettings) :
    Routine.Threads settings.interpret := by
  intro input p q
  unfold interpret
  split
  · cases settings.violation? _ <;> rfl
  · rfl

theorem Literal.validate_threads (expected : Literal) : Routine.Threads expected.validate := by
  intro input p q
  unfold validate
  split
  · rfl
  · split <;> rfl

/-! ## Nodes with children -/

theorem eachItem_under {check : Value → Path → Outcome Output}
    (hcheck : ∀ value p q, check value (p ++ q) = (check value q).under p) (p q : Path) :
    ∀ (items : List Value) (start : Nat),
      eachItem check (p ++ q) start items = (eachItem check q start items).under p := by
  intro items
  induction items with
  | nil => exact fun start => rfl
  | cons item rest ih =>
    intro start
    rw [eachItem, eachItem, Path.append_pushIndex, hcheck, ih]
    cases check item (q.pushIndex start) with
    | error failure => rfl
    | ok output => cases eachItem check q (start + 1) rest <;> rfl

theorem refineOutcome_under (accepts : Output → Bool) (message : String) (p q : Path)
    (outcome : Outcome Output) :
    refineOutcome accepts message (p ++ q) (outcome.under p) =
      (refineOutcome accepts message q outcome).under p := by
  cases outcome with
  | error failure => rfl
  | ok output =>
    rw [under_ok, refineOutcome, refineOutcome]
    split <;> rfl

namespace Schema

theorem map_interpret_under {inner : Schema} (h : Routine.Threads inner.interpret)
    (f : Output → Output) (input : Option Value) (p q : Path) :
    (inner.interpret input (p ++ q)).map f =
      Outcome.under p ((inner.interpret input q).map f) := by
  rw [h, under_map]

theorem interpretFields_under (fields : List (String × Schema))
    (ih : ∀ f ∈ fields, Routine.Threads f.2.interpret) (members : Members) (p q : Path) :
    ∀ collected : Members, interpretFields fields members (p ++ q) collected =
      (interpretFields fields members q collected).under p := by
  induction fields with
  | nil => exact fun collected => rfl
  | cons field rest ihRest =>
    obtain ⟨hfield, hrest⟩ := List.forall_mem_cons.mp ih
    obtain ⟨name, schema⟩ := field
    intro collected
    rw [interpretFields, interpretFields, Path.append_pushField, hfield]
    cases schema.interpret (Members.lookup name members) (q.pushField name) with
    | error failure => rfl
    | ok output => exact ihRest hrest (collected.insertOutput name output)

/-- The messages of the alternatives that fail do not depend on the path, so a union only shows its
    own. -/
theorem interpretAlternatives_append (alternatives : List Schema)
    (ih : ∀ a ∈ alternatives, Routine.Threads a.interpret) (input : Option Value) (p q : Path) :
    interpretAlternatives alternatives input (p ++ q) =
      interpretAlternatives alternatives input q := by
  induction alternatives with
  | nil => rfl
  | cons schema rest ihRest =>
    obtain ⟨hschema, hrest⟩ := List.forall_mem_cons.mp ih
    rw [interpretAlternatives, interpretAlternatives, hschema, ihRest hrest]
    cases schema.interpret input q <;> rfl

/-- **Interpreting under a path.** The path put in front of the place of an input is put in front of
    the path of the failure, in all schemas. -/
theorem interpret_under (s : Schema) : Routine.Threads s.interpret := by
  induction s with
  | string slot settings => exact settings.interpret_threads
  | number slot settings => exact settings.interpret_threads
  | boolean slot settings => exact settings.interpret_threads
  | literal slot expected => exact expected.validate_threads
  | array slot element settings ih =>
    intro input p q
    rcases input with _ | value
    · rfl
    cases value with
    | array items =>
      have hitems := eachItem_under (fun value p q => ih (some value) p q) p q items 0
      rw [interpret, interpret, hitems]
      cases settings.violation? items.length with
      | some violation => rfl
      | none => cases eachItem (fun item => element.interpret (some item)) q 0 items <;> rfl
    | _ => rfl
  | object slot fields typeMessage ih =>
    intro input p q
    rcases input with _ | value
    · rfl
    cases value with
    | object members => exact interpretFields_under fields ih members p q []
    | _ => rfl
  | union slot alternatives ih =>
    intro input p q
    rw [interpret, interpret, interpretAlternatives_append alternatives ih]
    cases interpretAlternatives alternatives input q <;> rfl
  | optional slot inner ih =>
    intro input p q
    rcases input with _ | value
    · rfl
    · exact map_interpret_under ih .present (some value) p q
  | nullable slot inner ih =>
    intro input p q
    rcases input with _ | value
    · exact map_interpret_under ih .present none p q
    cases value with
    | null => rfl
    | _ => exact map_interpret_under ih .present _ p q
  | refinement slot inner accepts message ih =>
    intro input p q
    rw [interpret, interpret, ih, refineOutcome_under]
  | pipe slot first second ihFirst ihSecond =>
    intro input p q
    rw [interpret, interpret, ihFirst]
    cases first.interpret input q with
    | error failure => rfl
    | ok output => exact ihSecond output.toValue? p q
  | shared access inner ih => exact ih

end Schema

namespace Session

/-- **Path threading.** For every schema, and for the routines of every node in every state of a run:
    the outcome at one path after another is the outcome at the second path, with the first path in
    front of the path of its failure; so every outcome is that at the root with the path in front. -/
theorem path_threading :
    (∀ (s : Schema) input p q, s.interpret input (p ++ q) = (s.interpret input q).under p) ∧
    (∀ (s : Schema) input p, s.interpret input p = (s.interpret input .root).under p) ∧
    ∀ (dialect : PatternDialect) (steps : List Step), ∀ n ∈ (reached dialect steps).nodes,
      ∀ input p q,
        (n.compile (reached dialect steps).store).1 input (p ++ q) =
          ((n.compile (reached dialect steps).store).1 input q).under p ∧
        (n.validate input (p ++ q) (reached dialect steps).store).1 =
          (n.validate input q (reached dialect steps).store).1.under p ∧
        (n.validate input p (reached dialect steps).store).1 =
          (n.validate input .root (reached dialect steps).store).1.under p := by
  have hroot : ∀ (s : Schema) input p, s.interpret input p = (s.interpret input .root).under p := by
    intro s input p
    rw [← s.interpret_under, Path.append_root]
  refine ⟨fun s => s.interpret_under, hroot, fun dialect steps n hn input p q => ?_⟩
  obtain ⟨owner, h⟩ := reached_sound dialect steps
  have hn := Schema.runsAsInterpreted h.coherent (h.placed_of_mem_nodes hn)
  rw [hn.compile_eq, hn.validate_eq, hn.validate_eq, hn.validate_eq, hn.validate_eq]
  exact ⟨n.interpret_under input p q, n.interpret_under input p q, hroot n input p⟩

theorem path_threading_words : ∃ n ∈ (reached noPatterns wordsRun).nodes,
    (n.validate (some (.object [("words", .array [.string "a", .string ""])])) (.ofField "body")
        (reached noPatterns wordsRun).store).1 =
      .error ⟨⟨[.field "body", .field "words", .index 1]⟩, .lengthOutOfBounds,
        "String must be at least 1 characters", some (.string "")⟩ := by
  have hn := List.mem_of_getElem? (l := (reached noPatterns wordsRun).nodes) (i := 3) rfl
  refine ⟨_, hn, ?_⟩
  rw [(path_threading.2.2 noPatterns wordsRun _ hn _ _ .root).2.2]
  rfl

end Session

end JsonValidation
