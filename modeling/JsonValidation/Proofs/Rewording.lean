import JsonValidation.Proofs.Blueprints
import JsonValidation.Proofs.Messages

/-!
# Rewording

Builders that give a message change nothing but the message, and all other builders do the same to
schemas that were worded differently before. So it does not matter at which point of its making a
schema was given its messages, and which ones: it demands the same.

* `plain_set_message`: what a message is given to stays what it is.
* `set_congr` and its like: builder calls on schemas that demand the same.
* `Blueprint.plain`: a blueprint that gives no messages.
* `Blueprint.build_plain`: what it makes demands what the schema of the blueprint demands.
* `messages_only_change_messages`: the interpreter, the routines that are compiled in a run, and
  blueprints.
-/

namespace JsonValidation

/-! ## Settings -/

theorem Constraint.map_plain_plain {α : Type} (c : Option (Constraint α)) :
    (c.map Constraint.plain).map Constraint.plain = c.map Constraint.plain := by
  cases c <;> rfl

theorem Constraint.map_plain_withMessage {α : Type} (c : Option (Constraint α)) (message : String) :
    (c.map (·.withMessage message)).map Constraint.plain = c.map Constraint.plain := by
  cases c <;> rfl

namespace StringSettings

theorem plain_plain (s : StringSettings) : s.plain.plain = s.plain := by
  simp only [plain, Constraint.map_plain_plain]

theorem plain_setMessage (s : StringSettings) (message : String) :
    (s.setMessage message).plain = s.plain := by
  unfold setMessage
  split <;> simp only [plain, Constraint.map_plain_withMessage]

/-- A change comes to the same for the plain settings. -/
theorem plain_set? (s : StringSettings) (setting : Setting) :
    (s.plain.set? setting).map plain = (s.set? setting).map plain := by
  cases setting with
  | message text => simp only [set?, Option.map_some, plain_setMessage, plain_plain]
  | _ =>
    simp only [set?, Option.map_some, Option.map_none, setMinLen, setMaxLen, setNonEmpty,
      setPattern, plain, Constraint.map_plain_plain]

end StringSettings

namespace NumberSettings

theorem plain_plain (s : NumberSettings) : s.plain.plain = s.plain := by
  simp only [plain, Constraint.map_plain_plain]

theorem plain_setMessage (s : NumberSettings) (message : String) :
    (s.setMessage message).plain = s.plain := by
  unfold setMessage
  split <;> simp only [plain, Constraint.map_plain_withMessage]

/-- A change comes to the same for the plain settings. -/
theorem plain_set? (s : NumberSettings) (setting : Setting) :
    (s.plain.set? setting).map plain = (s.set? setting).map plain := by
  cases setting with
  | message text => simp only [set?, Option.map_some, plain_setMessage, plain_plain]
  | _ =>
    simp only [set?, Option.map_some, Option.map_none, setMin, setMax, setRange, setPositive,
      setNegative, plain, Constraint.map_plain_plain]

end NumberSettings

namespace BooleanSettings

theorem plain_plain (s : BooleanSettings) : s.plain.plain = s.plain := by
  simp only [plain, Constraint.map_plain_plain]

theorem plain_setMessage (s : BooleanSettings) (message : String) :
    (s.setMessage message).plain = s.plain := by
  unfold setMessage
  split <;> simp only [plain, Constraint.map_plain_withMessage]

/-- A change comes to the same for the plain settings. -/
theorem plain_set? (s : BooleanSettings) (setting : Setting) :
    (s.plain.set? setting).map plain = (s.set? setting).map plain := by
  cases setting with
  | message text => simp only [set?, Option.map_some, plain_setMessage, plain_plain]
  | _ =>
    simp only [set?, Option.map_some, Option.map_none, setMustBeTrue, setMustBeFalse, plain,
      Constraint.map_plain_plain]

end BooleanSettings

namespace ArraySettings

theorem plain_plain (s : ArraySettings) : s.plain.plain = s.plain := by
  simp only [plain, Constraint.map_plain_plain]

theorem plain_setMessage (s : ArraySettings) (message : String) :
    (s.setMessage message).plain = s.plain := by
  unfold setMessage
  split <;> simp only [plain, Constraint.map_plain_withMessage]

/-- A change comes to the same for the plain settings. -/
theorem plain_set? (s : ArraySettings) (setting : Setting) :
    (s.plain.set? setting).map plain = (s.set? setting).map plain := by
  cases setting with
  | message text => simp only [set?, Option.map_some, plain_setMessage, plain_plain]
  | _ =>
    simp only [set?, Option.map_some, Option.map_none, setMinLen, setMaxLen, setNonEmpty, plain,
      Constraint.map_plain_plain]

end ArraySettings

/-! ## Nodes with a plain form -/

namespace Schema

theorem plainFields_eq_map (fields : List (String × Schema)) :
    plainFields fields = fields.map fun f => (f.1, f.2.plain) := by
  induction fields with
  | nil => rfl
  | cons field rest ih =>
    obtain ⟨name, schema⟩ := field
    rw [plainFields, ih, List.map_cons]

theorem plainAll_eq_map (alternatives : List Schema) :
    plainAll alternatives = alternatives.map plain := by
  induction alternatives with
  | nil => rfl
  | cons schema rest ih => rw [plainAll, ih, List.map_cons]

theorem plain_node (s : Schema) : s.node.plain = s.plain := by
  induction s with
  | shared access inner ih => exact ih
  | _ => rfl

/-- A copy demands what its original demands. -/
theorem plain_copy (s : Schema) : ∀ σ : Store, (s.copy σ).1.plain = s.plain := by
  induction s with
  | array slot element settings ih =>
    intro σ
    show array 0 (element.copy σ).1.plain settings.plain = _
    rw [ih σ, plain]
  | optional slot inner ih =>
    intro σ
    show optional 0 (inner.copy σ).1.plain = _
    rw [ih σ, plain]
  | nullable slot inner ih =>
    intro σ
    show nullable 0 (inner.copy σ).1.plain = _
    rw [ih σ, plain]
  | refinement slot inner accepts message ih =>
    intro σ
    show refinement 0 (inner.copy σ).1.plain accepts "" = _
    rw [ih σ, plain]
  | pipe slot first second ihFirst ihSecond =>
    intro σ
    show pipe 0 (first.copy σ).1.plain (second.copy (first.copy σ).2).1.plain = _
    rw [ihFirst, ihSecond, plain]
  | shared access inner ih => exact fun σ => rfl
  | _ => exact fun σ => rfl

/-- A plain form has nothing to leave out. -/
theorem plain_plain (s : Schema) : s.plain.plain = s.plain := by
  induction s with
  | string slot settings => rw [plain, plain, settings.plain_plain]
  | number slot settings => rw [plain, plain, settings.plain_plain]
  | boolean slot settings => rw [plain, plain, settings.plain_plain]
  | literal slot expected => rfl
  | array slot element settings ih => rw [plain, plain, ih, settings.plain_plain]
  | object slot fields typeMessage ih =>
    have hfields : plainFields (plainFields fields) = plainFields fields := by
      simpa [plainFields_eq_map] using ih
    rw [plain, plain, hfields]
  | union slot alternatives ih =>
    have halternatives : plainAll (plainAll alternatives) = plainAll alternatives := by
      simpa [plainAll_eq_map] using ih
    rw [plain, plain, halternatives]
  | optional slot inner ih => rw [plain, plain, ih]
  | nullable slot inner ih => rw [plain, plain, ih]
  | refinement slot inner accepts message ih => rw [plain, plain, ih]
  | pipe slot first second ihFirst ihSecond => rw [plain, plain, ihFirst, ihSecond]
  | shared access inner ih => exact ih

theorem plainFields_plainFields (fields : List (String × Schema)) :
    plainFields (plainFields fields) = plainFields fields := by
  simp [plainFields_eq_map, plain_plain]

theorem plainFields_declare (fields : List (String × Schema)) (name : String) (field : Schema) :
    plainFields (Shape.declare fields name field) =
      Shape.declare (plainFields fields) name field.plain := by
  induction fields with
  | nil => rfl
  | cons first rest ih =>
    obtain ⟨key, old⟩ := first
    rw [Shape.declare, plainFields, Shape.declare]
    split
    · rw [plainFields]
    · rw [plainFields, ih]

theorem plainFields_extend (fields others : List (String × Schema)) :
    plainFields (Shape.extend fields others) =
      Shape.extend (plainFields fields) (plainFields others) := by
  induction others generalizing fields with
  | nil => rfl
  | cons first rest ih =>
    obtain ⟨name, field⟩ := first
    show plainFields (Shape.extend (Shape.declare fields name field) rest) = _
    rw [ih, plainFields_declare]
    rfl

/-! ## Builders -/

/-- What a message is given to stays what it is: no builder call with a message drops a constraint, a
    field or a child. -/
theorem plain_set_message {s : Schema} {message : String} {σ : Store} {result : Schema × Store}
    (h : s.set (.message message) σ = some result) : result.1.plain = s.plain := by
  rw [← s.plain_node]
  unfold set at h
  split at h
  · rename_i settings hnode
    obtain rfl := Option.some.inj h
    rw [hnode]
    show string 0 (settings.setMessage message).plain = string 0 settings.plain
    rw [settings.plain_setMessage]
  · rename_i settings hnode
    obtain rfl := Option.some.inj h
    rw [hnode]
    show number 0 (settings.setMessage message).plain = number 0 settings.plain
    rw [settings.plain_setMessage]
  · rename_i settings hnode
    obtain rfl := Option.some.inj h
    rw [hnode]
    show boolean 0 (settings.setMessage message).plain = boolean 0 settings.plain
    rw [settings.plain_setMessage]
  · rename_i element settings hnode
    obtain rfl := Option.some.inj h
    rw [hnode]
    show array 0 (element.copy σ).1.plain (settings.setMessage message).plain =
      array 0 element.plain settings.plain
    rw [settings.plain_setMessage, element.plain_copy]
  · rename_i hnode
    obtain rfl := Option.some.inj h
    rw [hnode]
    rfl
  · cases h

/-- Calls that go on alike come to the same if what they go on with does. -/
theorem map_bind_congr {α β γ δ : Type} {p : α → β} {q : γ → δ} {f g : α → γ} {x y : Option α}
    (h : x.map p = y.map p) (hfg : ∀ a b, p a = p b → q (f a) = q (g b)) :
    (x.bind fun a => some (f a)).map q = (y.bind fun b => some (g b)).map q := by
  cases x <;> cases y
  · rfl
  · cases h
  · cases h
  · exact congrArg some (hfg _ _ (Option.some.inj h))

/-- Setting a setting comes to the same for a schema and for its plain form. -/
theorem plain_set (s : Schema) (setting : Setting) (σ τ : Store) :
    (s.set setting σ).map (·.1.plain) = (s.plain.set setting τ).map (·.1.plain) := by
  induction s with
  | string slot settings =>
    exact map_bind_congr (settings.plain_set? setting).symm
      fun _ _ h => congrArg (string 0) h
  | number slot settings =>
    exact map_bind_congr (settings.plain_set? setting).symm
      fun _ _ h => congrArg (number 0) h
  | boolean slot settings =>
    exact map_bind_congr (settings.plain_set? setting).symm
      fun _ _ h => congrArg (boolean 0) h
  | array slot element settings ih =>
    refine map_bind_congr (settings.plain_set? setting).symm
      fun a b h => ?_
    show array 0 (element.copy σ).1.plain a.plain = array 0 (element.plain.copy τ).1.plain b.plain
    rw [plain_copy, plain_copy, plain_plain, h]
  | object slot fields typeMessage ih =>
    cases setting with
    | message text =>
      show some (object 0 (plainFields fields) none) =
        some (object 0 (plainFields (plainFields fields)) none)
      rw [plainFields_plainFields]
    | _ => rfl
  | shared access inner ih => exact ih
  | _ => rfl

/-- Declaring a field comes to the same for plain forms. -/
theorem plain_addField (s : Schema) (name : String) (field : Schema) (σ τ : Store) :
    (s.addField name field σ).map (·.1.plain) =
      (s.plain.addField name field.plain τ).map (·.1.plain) := by
  induction s with
  | object slot fields typeMessage ih =>
    show some (object 0 (plainFields (Shape.declare fields name field)) none) =
      some (object 0 (plainFields (Shape.declare (plainFields fields) name field.plain)) none)
    rw [plainFields_declare, plainFields_declare, plainFields_plainFields, plain_plain]
  | shared access inner ih => exact ih
  | _ => rfl

/-- Declaring the fields of another object comes to the same for plain forms. -/
theorem plain_extend (s other : Schema) (σ τ : Store) :
    (s.extend other σ).map (·.1.plain) = (s.plain.extend other.plain τ).map (·.1.plain) := by
  induction s with
  | object slot fields typeMessage ih =>
    clear ih
    induction other with
    | object slot' others typeMessage' =>
      show some (object 0 (plainFields (Shape.extend fields others)) none) =
        some (object 0 (plainFields (Shape.extend (plainFields fields) (plainFields others))) none)
      rw [plainFields_extend, plainFields_extend, plainFields_plainFields, plainFields_plainFields]
    | shared access inner ih => exact ih
    | _ => rfl
  | shared access inner ih => exact ih
  | _ => rfl

/-- Adding an alternative comes to the same for plain forms. -/
theorem plain_addAlternative (s alternative : Schema) (σ τ : Store) :
    (s.addAlternative alternative σ).map (·.1.plain) =
      (s.plain.addAlternative alternative.plain τ).map (·.1.plain) := by
  induction s with
  | union slot alternatives ih =>
    show some (union 0 (plainAll (alternatives ++ [alternative]))) =
      some (union 0 (plainAll (plainAll alternatives ++ [alternative.plain])))
    simp [plainAll_eq_map, plain_plain]
  | shared access inner ih => exact ih
  | _ => rfl

variable {s s' t t' : Schema}

theorem set_congr (h : s.plain = s'.plain) (setting : Setting) (σ τ : Store) :
    (s.set setting σ).map (·.1.plain) = (s'.set setting τ).map (·.1.plain) := by
  rw [s.plain_set setting σ σ, s'.plain_set setting τ σ, h]

theorem addField_congr (hs : s.plain = s'.plain) (ht : t.plain = t'.plain) (name : String)
    (σ τ : Store) :
    (s.addField name t σ).map (·.1.plain) = (s'.addField name t' τ).map (·.1.plain) := by
  rw [s.plain_addField name t σ σ, s'.plain_addField name t' τ σ, hs, ht]

theorem addOptionalField_congr (hs : s.plain = s'.plain) (ht : t.plain = t'.plain) (name : String)
    (σ τ : Store) :
    (s.addOptionalField name t σ).map (·.1.plain) =
      (s'.addOptionalField name t' τ).map (·.1.plain) := by
  have hoptional : (optional σ.next t).plain = (optional τ.next t').plain := by
    rw [plain, plain, ht]
  exact addField_congr hs hoptional name _ _

theorem extend_congr (hs : s.plain = s'.plain) (ht : t.plain = t'.plain) (σ τ : Store) :
    (s.extend t σ).map (·.1.plain) = (s'.extend t' τ).map (·.1.plain) := by
  rw [s.plain_extend t σ σ, s'.plain_extend t' τ σ, hs, ht]

theorem addAlternative_congr (hs : s.plain = s'.plain) (ht : t.plain = t'.plain) (σ τ : Store) :
    (s.addAlternative t σ).map (·.1.plain) = (s'.addAlternative t' τ).map (·.1.plain) := by
  rw [s.plain_addAlternative t σ σ, s'.plain_addAlternative t' τ σ, hs, ht]

end Schema

/-! ## Blueprints -/

/-- Surroundings in which one can refer to schemas that demand the same. -/
structure Surroundings.DemandSame (env env' : Surroundings) : Prop where
  dialect : env.dialect = env'.dialect
  defined : ∀ name, (env.defined? name).map Schema.plain = (env'.defined? name).map Schema.plain
  registered : ∀ name,
    (env.registered? name).map Schema.plain = (env'.registered? name).map Schema.plain

theorem Surroundings.DemandSame.refl (env : Surroundings) : env.DemandSame env :=
  ⟨rfl, fun _ => rfl, fun _ => rfl⟩

namespace Blueprint

open Schema

mutual

/-- The blueprint without the builder calls that give messages and the messages of refinements. -/
def plain : Blueprint → Blueprint
  | array element options => array element.plain options
  | object shape => object (plainShape shape)
  | union alternatives => union (plainAll alternatives)
  | set receiver (.message _) => receiver.plain
  | set receiver setting => set receiver.plain setting
  | setPattern receiver source => setPattern receiver.plain source
  | field receiver name schema => field receiver.plain name schema.plain
  | optionalField receiver name schema => optionalField receiver.plain name schema.plain
  | extend receiver other => extend receiver.plain other.plain
  | alternative receiver schema => alternative receiver.plain schema.plain
  | optional receiver => optional receiver.plain
  | nullable receiver => nullable receiver.plain
  | refine receiver accepts _ => refine receiver.plain accepts none
  | pipe receiver next => pipe receiver.plain next.plain
  | b => b

/-- The blueprints of fields, each without messages. -/
def plainShape : List (String × Blueprint) → List (String × Blueprint)
  | [] => []
  | (name, blueprint) :: rest => (name, blueprint.plain) :: plainShape rest

/-- Blueprints, each without messages. -/
def plainAll : List Blueprint → List Blueprint
  | [] => []
  | blueprint :: rest => blueprint.plain :: plainAll rest

end

section Follows

variable {ε α β γ δ : Type}

/-- Where the first computation makes a value, the second one makes a value with the same image, from
    whatever store. -/
def Follows (image : α → γ) (f g : Store → Except ε (α × Store)) : Prop :=
  ∀ (σ τ : Store) (result : α × Store), f σ = .ok result →
    ∃ result', g τ = .ok result' ∧ image result.1 = image result'.1

theorem Follows.of_ok {image : α → γ} {f g : Store → α × Store}
    (h : ∀ σ τ, image (f σ).1 = image (g τ).1) :
    Follows image (fun σ => (.ok (f σ) : Except ε (α × Store))) fun τ => .ok (g τ) := by
  intro σ τ result hresult
  obtain rfl := Except.ok.inj hresult
  exact ⟨g τ, rfl, h σ τ⟩

/-- One computation after another. -/
theorem Follows.bind {image : α → γ} {image' : β → δ} {f f' : Store → Except ε (α × Store)}
    {g g' : α → Store → Except ε (β × Store)} (hf : Follows image f f')
    (hg : ∀ a a', image a = image a' → Follows image' (g a) (g' a')) :
    Follows image' (fun σ => f σ >>= fun result => g result.1 result.2)
      fun τ => f' τ >>= fun result => g' result.1 result.2 := by
  intro σ τ result hresult
  obtain ⟨made, hmade, hresult⟩ := exists_of_bind_eq_ok hresult
  obtain ⟨made', hmade', himage⟩ := hf σ τ made hmade
  obtain ⟨result', hresult', himage'⟩ := hg made.1 made'.1 himage made.2 made'.2 result hresult
  refine ⟨result', ?_, himage'⟩
  show (f' τ >>= fun result => g' result.1 result.2) = .ok result'
  rw [hmade']
  exact hresult'

/-- Builder calls that come to the same. -/
theorem follows_applied {call call' : Store → Option (Schema × Store)}
    (h : ∀ σ τ, (call σ).map (·.1.plain) = (call' τ).map (·.1.plain)) :
    Follows Schema.plain (fun σ => applied (call σ)) fun τ => applied (call' τ) := by
  intro σ τ result hresult
  have hsame := h σ τ
  rw [applied_eq_ok hresult] at hsame
  obtain ⟨result', hresult', hplain⟩ := Option.map_eq_some_iff.mp hsame.symm
  refine ⟨result', ?_, hplain.symm⟩
  show applied (call' τ) = _
  rw [hresult']
  rfl

end Follows

variable {env env' : Surroundings}

theorem readPattern_eq (henv : env.DemandSame env') (source : String) :
    readPattern env source = readPattern env' source := by
  rw [readPattern, readPattern, henv.dialect]

theorem readPattern?_eq (henv : env.DemandSame env') (source : Option String) :
    readPattern? env source = readPattern? env' source := by
  cases source with
  | none => rfl
  | some source => rw [readPattern?, readPattern?, readPattern_eq henv]

/-- References to schemas that demand the same. -/
theorem follows_reference {found found' : Option Schema} (error : BuildError)
    (make : Schema → Store → Schema × Store) (hmake : ∀ s σ, (make s σ).1.plain = s.plain) :
    found.map Schema.plain = found'.map Schema.plain → Follows Schema.plain
      (fun σ => match found with
        | some schema => .ok (make schema σ)
        | none => .error error)
      fun τ => match found' with
        | some schema => .ok (make schema τ)
        | none => .error error := by
  intro hfound σ τ result hresult
  cases found with
  | none => cases hresult
  | some schema =>
    obtain ⟨schema', rfl, hschema⟩ := Option.map_eq_some_iff.mp hfound.symm
    obtain rfl := Except.ok.inj hresult
    exact ⟨make schema' τ, rfl, by rw [hmake, hmake, hschema]⟩

mutual

/-- **Blueprints.** A blueprint without its messages makes a schema wherever the blueprint makes one,
    and that schema demands the same. -/
theorem build_plain (henv : env.DemandSame env') :
    ∀ b : Blueprint, Follows Schema.plain (build env b) (build env' b.plain)
  | .string minLen maxLen pattern => by
    intro σ τ result h
    obtain ⟨p, hp, h⟩ := exists_of_bind_eq_ok h
    rw [readPattern?_eq henv] at hp
    refine ⟨Schema.create τ fun slot => .string slot (.ofOptions ⟨minLen, maxLen, p⟩), ?_, ?_⟩
    · show (readPattern? env' pattern >>= fun p => Except.ok _) = _
      rw [hp]
      rfl
    · cases h
      rfl
  | .number options => .of_ok fun σ τ => rfl
  | .boolean options => .of_ok fun σ τ => rfl
  | .literal expected => .of_ok fun σ τ => rfl
  | .literalFloat x => by
    intro σ τ result h
    rw [build] at h
    split at h
    · rename_i expected hx
      cases h
      refine ⟨Schema.create τ fun slot => .literal slot expected, ?_, rfl⟩
      show build env' (.literalFloat x) τ = _
      rw [build, hx]
    · cases h
  | .array element options =>
    (build_plain henv element).bind fun s s' h => .of_ok
      (f := fun σ => Schema.create σ fun slot => .array slot s (.ofOptions options))
      (g := fun σ => Schema.create σ fun slot => .array slot s' (.ofOptions options))
      fun σ τ => congrArg (fun s => Schema.array 0 s (ArraySettings.ofOptions options).plain) h
  | .object shape =>
    (buildFields_plain henv shape).bind fun fields fields' h => .of_ok
      (f := fun σ => Schema.create σ fun slot => .object slot (Shape.ofList fields) none)
      (g := fun σ => Schema.create σ fun slot => .object slot (Shape.ofList fields') none)
      fun σ τ => by
        show Schema.object 0 (plainFields (Shape.extend [] fields)) none =
          Schema.object 0 (plainFields (Shape.extend [] fields')) none
        rw [plainFields_extend, plainFields_extend, h]
  | .union alternatives =>
    (buildAll_plain henv alternatives).bind fun schemas schemas' h => .of_ok
      (f := fun σ => Schema.create σ fun slot => .union slot schemas)
      (g := fun σ => Schema.create σ fun slot => .union slot schemas')
      fun σ τ => congrArg (Schema.union 0) h
  | .copyOf name =>
    follows_reference (.unknownSchema name) Schema.copy plain_copy (henv.defined name)
  | .share name =>
    follows_reference (.unknownSchema name) (fun schema σ => (.shared .direct schema, σ))
      (fun s σ => rfl) (henv.defined name)
  | .registered name =>
    follows_reference .notRegistered (fun schema σ => (.shared .registry schema, σ))
      (fun s σ => rfl) (henv.registered name)
  | .set receiver setting => by
    cases setting with
    | message text =>
      -- this call is left out
      intro σ τ result h
      obtain ⟨made, hmade, h⟩ := exists_of_bind_eq_ok h
      obtain ⟨made', hmade', hplain⟩ := build_plain henv receiver σ τ made hmade
      exact ⟨made', hmade', (plain_set_message (applied_eq_ok h)).trans hplain⟩
    | _ =>
      exact (build_plain henv receiver).bind fun s s' h => follows_applied fun σ τ =>
        set_congr h _ σ τ
  | .setPattern receiver source => by
    intro σ τ result h
    obtain ⟨made, hmade, h⟩ := exists_of_bind_eq_ok h
    obtain ⟨p, hp, h⟩ := exists_of_bind_eq_ok h
    obtain ⟨made', hmade', hplain⟩ := build_plain henv receiver σ τ made hmade
    obtain ⟨result', hresult', hplain'⟩ :=
      follows_applied (set_congr hplain (.pattern p)) made.2 made'.2 result h
    refine ⟨result', ?_, hplain'⟩
    rw [readPattern_eq henv] at hp
    show (build env' receiver.plain τ >>= fun made => readPattern env' source >>= fun p =>
      applied (made.1.set (.pattern p) made.2)) = _
    rw [hmade', hp]
    exact hresult'
  | .field receiver name schema =>
    (build_plain henv receiver).bind fun s s' hs => (build_plain henv schema).bind fun t t' ht =>
      follows_applied fun σ τ => addField_congr hs ht name σ τ
  | .optionalField receiver name schema =>
    (build_plain henv receiver).bind fun s s' hs => (build_plain henv schema).bind fun t t' ht =>
      follows_applied fun σ τ => addOptionalField_congr hs ht name σ τ
  | .extend receiver other =>
    (build_plain henv receiver).bind fun s s' hs => (build_plain henv other).bind fun t t' ht =>
      follows_applied fun σ τ => extend_congr hs ht σ τ
  | .alternative receiver schema =>
    (build_plain henv receiver).bind fun s s' hs => (build_plain henv schema).bind fun t t' ht =>
      follows_applied fun σ τ => addAlternative_congr hs ht σ τ
  | .optional receiver =>
    (build_plain henv receiver).bind fun s s' h => .of_ok fun σ τ => by
      show Schema.optional 0 (s.copy σ).1.plain = Schema.optional 0 (s'.copy τ).1.plain
      rw [plain_copy, plain_copy, h]
  | .nullable receiver =>
    (build_plain henv receiver).bind fun s s' h => .of_ok fun σ τ => by
      show Schema.nullable 0 (s.copy σ).1.plain = Schema.nullable 0 (s'.copy τ).1.plain
      rw [plain_copy, plain_copy, h]
  | .refine receiver accepts message =>
    (build_plain henv receiver).bind fun s s' h => .of_ok
      (f := fun σ => s.refine accepts (message.getD defaultRefinementMessage) σ)
      (g := fun σ => s'.refine accepts defaultRefinementMessage σ)
      fun σ τ => by
        show Schema.refinement 0 (s.copy σ).1.plain accepts "" =
          Schema.refinement 0 (s'.copy τ).1.plain accepts ""
        rw [plain_copy, plain_copy, h]
  | .pipe receiver next =>
    (build_plain henv receiver).bind fun s s' hs => (build_plain henv next).bind fun t t' ht =>
      .of_ok fun σ τ => by
        show Schema.pipe 0 (s.copy σ).1.plain t.plain = Schema.pipe 0 (s'.copy τ).1.plain t'.plain
        rw [plain_copy, plain_copy, hs, ht]

theorem buildFields_plain (henv : env.DemandSame env') :
    ∀ shape : List (String × Blueprint),
      Follows plainFields (buildFields env shape) (buildFields env' (plainShape shape))
  | [] => .of_ok fun σ τ => rfl
  | (name, blueprint) :: rest =>
    (build_plain henv blueprint).bind fun s s' hs =>
      (buildFields_plain henv rest).bind fun fields fields' h => .of_ok
        (f := fun σ => ((name, s) :: fields, σ)) (g := fun σ => ((name, s') :: fields', σ))
        fun σ τ => by
        show (name, s.plain) :: plainFields fields = (name, s'.plain) :: plainFields fields'
        rw [hs, h]

theorem buildAll_plain (henv : env.DemandSame env') :
    ∀ blueprints : List Blueprint,
      Follows Schema.plainAll (buildAll env blueprints) (buildAll env' (plainAll blueprints))
  | [] => .of_ok fun σ τ => rfl
  | blueprint :: rest =>
    (build_plain henv blueprint).bind fun s s' hs =>
      (buildAll_plain henv rest).bind fun schemas schemas' h => .of_ok
        (f := fun σ => (s :: schemas, σ)) (g := fun σ => (s' :: schemas', σ))
        fun σ τ => by
        show s.plain :: Schema.plainAll schemas = s'.plain :: Schema.plainAll schemas'
        rw [hs, h]

end

/-- Blueprints that differ in their messages at most make schemas that demand the same. -/
theorem build_congr (henv : env.DemandSame env') {b b' : Blueprint} (h : b.plain = b'.plain)
    {σ σ' : Store} {result result' : Schema × Store} (hb : build env b σ = .ok result)
    (hb' : build env' b' σ' = .ok result') : result.1.plain = result'.1.plain := by
  obtain ⟨made, hmade, hplain⟩ := build_plain henv b σ σ result hb
  obtain ⟨made', hmade', hplain'⟩ := build_plain (.refl env') b' σ' σ result' hb'
  rw [h, hmade'] at hmade
  rw [hplain, hplain', Except.ok.inj hmade]

end Blueprint

namespace Session

open Blueprint

/-- **Messages.** Two schemas that demand the same, and so differ in their texts at most, have the
    same outcomes up to the message of a failure. So do all routines of two such nodes, in whatever
    states of whatever runs, and all schemas that are made by blueprints that differ in their
    messages at most. -/
theorem messages_only_change_messages :
    (∀ s t : Schema, s.plain = t.plain → s.interpret.SameButMessage t.interpret) ∧
    (∀ (dialect dialect' : PatternDialect) (steps steps' : List Step),
      ∀ n ∈ (reached dialect steps).nodes, ∀ m ∈ (reached dialect' steps').nodes,
        n.plain = m.plain →
        (n.compile (reached dialect steps).store).1.SameButMessage
          (m.compile (reached dialect' steps').store).1 ∧
        (n.assemble (reached dialect steps).store).1.SameButMessage
          (m.assemble (reached dialect' steps').store).1 ∧
        ∀ input path, (n.validate input path (reached dialect steps).store).1.SameButMessage
          (m.validate input path (reached dialect' steps').store).1) ∧
    ∀ (env env' : Surroundings) (b b' : Blueprint) (σ σ' : Store) (result result' : Schema × Store),
      env.DemandSame env' → b.plain = b'.plain → build env b σ = .ok result →
      build env' b' σ' = .ok result' → result.1.interpret.SameButMessage result'.1.interpret := by
  have hinterpret : ∀ s t : Schema, s.plain = t.plain → s.interpret.SameButMessage t.interpret := by
    intro s t h input path
    have hs := s.interpret_plain input path
    rw [h] at hs
    exact hs.symm.trans (t.interpret_plain input path)
  refine ⟨hinterpret, ?_, ?_⟩
  · intro dialect dialect' steps steps' n hn m hm h
    have hn := reached_runsAsInterpreted hn
    have hm := reached_runsAsInterpreted hm
    rw [hn.compile_eq, hm.compile_eq, hn.assemble_eq, hm.assemble_eq]
    refine ⟨hinterpret n m h, hinterpret n m h, fun input path => ?_⟩
    rw [hn.validate_eq, hm.validate_eq]
    exact hinterpret n m h input path
  · intro env env' b b' σ σ' result result' henv h hresult hresult'
    exact hinterpret _ _ (build_congr henv h hresult hresult')

/-- The run that builds what `wordsRun` builds, with a message for words that are too short. -/
def wordedRun : List Step :=
  [.define "words" (.optional (.array
      (.set (.string (some 1) none none) (.message "a word has letters")) {})),
    .define "page" (.field (.object []) "words" (.share "words"))]

theorem messages_only_change_messages_words : ∃ n ∈ (reached noPatterns wordsRun).nodes,
    ∃ m ∈ (reached noPatterns wordedRun).nodes, n.plain = m.plain ∧
    (n.validate (some (.object [("words", .array [.string ""])])) .root
        (reached noPatterns wordsRun).store).1 =
      .error ⟨⟨[.field "words", .index 0]⟩, .lengthOutOfBounds,
        "String must be at least 1 characters", some (.string "")⟩ ∧
    (m.validate (some (.object [("words", .array [.string ""])])) .root
        (reached noPatterns wordedRun).store).1 =
      .error ⟨⟨[.field "words", .index 0]⟩, .lengthOutOfBounds, "a word has letters",
        some (.string "")⟩ ∧
    (n.compile (reached noPatterns wordsRun).store).1.SameButMessage
      (m.compile (reached noPatterns wordedRun).store).1 := by
  have hn := List.mem_of_getElem? (l := (reached noPatterns wordsRun).nodes) (i := 3) rfl
  have hm := List.mem_of_getElem? (l := (reached noPatterns wordedRun).nodes) (i := 3) rfl
  refine ⟨_, hn, _, hm, rfl, rfl, rfl, ?_⟩
  exact (messages_only_change_messages.2.1 noPatterns noPatterns wordsRun wordedRun _ hn _ hm rfl).1

end Session

end JsonValidation
