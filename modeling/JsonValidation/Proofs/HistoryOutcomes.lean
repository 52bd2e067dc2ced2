import JsonValidation.Proofs.Histories
import JsonValidation.Proofs.Outcomes
import JsonValidation.Proofs.Replies

/-!
# Histories decide outcomes

How a schema for strings, numbers, booleans or arrays validates is decided by the builder calls it was
made by: the constraints are checked in the order of the rulebook, whatever the order of the calls, as
the last demand of each rule left them.

* `StringSettings.draft` and its like: what settings record. `draft_set?`: a setting records the calls
  that it stands for. `interpret_eq_outcome`: what is recorded decides.
* `Base.Made`: a schema of the kind of a base that records a draft. `Made.set`: preserved by a setting;
  `Made.setAll`: by settings one after the other.
* `Base.FollowsHistory`, `follows_history`: chains of builder calls, by themselves and in blueprints.
-/

namespace JsonValidation

open Rulebook (Draft)

/-! ## Settings as drafts -/

namespace StringSettings

/-- What the settings record. -/
def draft (s : StringSettings) : Draft rulebook where
  constraint
    | StringRule.minLen => s.minLen
    | StringRule.maxLen => s.maxLen
    | StringRule.pattern => s.pattern
  typeMessage := s.typeMessage
  last := s.last

theorem draft_setMessage (s : StringSettings) (text : String) :
    (s.setMessage text).draft = s.draft.call (.message text) := by
  rcases s with ⟨minLen, maxLen, pattern, typeMessage, _ | last⟩
  · rfl
  · cases last <;> exact Draft.ext (funext fun rule => by cases rule <;> rfl) rfl rfl

theorem draft_set? (s : StringSettings) (setting : Setting) :
    (s.set? setting).map draft =
      (calls? setting).map fun calls => calls.foldl Draft.call s.draft := by
  cases setting with
  | message text => exact congrArg some (s.draft_setMessage text)
  | minLen n | maxLen n | nonEmpty | pattern p =>
    exact congrArg some (Draft.ext (funext fun rule => by cases rule <;> rfl) rfl rfl)
  | _ => rfl

theorem minLenViolation_eq :
    minLenViolation = rulebook.check StringRule.minLen := by
  funext c s
  simp [minLenViolation, Rulebook.check, rulebook]

theorem maxLenViolation_eq :
    maxLenViolation = rulebook.check StringRule.maxLen := by
  funext c s
  simp [maxLenViolation, Rulebook.check, rulebook]

theorem patternViolation_eq :
    patternViolation = rulebook.check StringRule.pattern := by
  funext c s
  cases hmatch : c.value.accepts s <;> simp [patternViolation, Rulebook.check, rulebook, hmatch]

theorem violation?_eq (settings : StringSettings) (s : String) :
    settings.violation? s = settings.draft.violation? s := by
  refine Eq.trans ?_ (settings.draft.violation?_eq_or s).symm
  rw [violation?, minLenViolation_eq, maxLenViolation_eq, patternViolation_eq]
  show _ = (settings.minLen.bind (rulebook.check StringRule.minLen · s)).or
    ((settings.maxLen.bind (rulebook.check StringRule.maxLen · s)).or
      ((settings.pattern.bind (rulebook.check StringRule.pattern · s)).or none))
  cases settings.minLen.bind (rulebook.check StringRule.minLen · s) with
  | some violation => rfl
  | none =>
    cases settings.maxLen.bind (rulebook.check StringRule.maxLen · s) with
    | some violation => rfl
    | none => exact Option.or_none.symm

theorem interpret_eq_outcome (settings : StringSettings) (options : StringOptions) :
    settings.interpret =
      Rulebook.outcome settings.draft.toDemands (Base.string options).accepted := by
  funext input path
  cases input with
  | none => rfl
  | some value =>
    cases value with
    | string s => rw [interpret, violation?_eq]; rfl
    | _ => rfl

end StringSettings

namespace NumberSettings

/-- What the settings record. -/
def draft (s : NumberSettings) : Draft rulebook where
  constraint
    | NumberRule.min => s.min
    | NumberRule.max => s.max
    | NumberRule.positive => s.positive
    | NumberRule.negative => s.negative
  typeMessage := s.typeMessage
  last := s.last

theorem draft_setMessage (s : NumberSettings) (text : String) :
    (s.setMessage text).draft = s.draft.call (.message text) := by
  rcases s with ⟨min, max, positive, negative, typeMessage, _ | last⟩
  · rfl
  · cases last <;> exact Draft.ext (funext fun rule => by cases rule <;> rfl) rfl rfl

theorem draft_set? (s : NumberSettings) (setting : Setting) :
    (s.set? setting).map draft =
      (calls? setting).map fun calls => calls.foldl Draft.call s.draft := by
  cases setting with
  | message text => exact congrArg some (s.draft_setMessage text)
  | min bound | max bound | range low high | positive | negative =>
    exact congrArg some (Draft.ext (funext fun rule => by cases rule <;> rfl) rfl rfl)
  | _ => rfl

theorem violation?_eq (settings : NumberSettings) (n : Number) :
    settings.violation? n.toBinary64 = settings.draft.violation? n := by
  refine Eq.trans ?_ (settings.draft.violation?_eq_or n).symm
  show _ = (settings.min.bind (minViolation · n.toBinary64)).or
    ((settings.max.bind (maxViolation · n.toBinary64)).or
      ((settings.positive.bind (positiveViolation · n.toBinary64)).or
        ((settings.negative.bind (negativeViolation · n.toBinary64)).or none)))
  rw [violation?_eq_or, Option.or_none]

theorem interpret_eq_outcome (settings : NumberSettings) (options : NumberOptions) :
    settings.interpret =
      Rulebook.outcome settings.draft.toDemands (Base.number options).accepted := by
  funext input path
  cases input with
  | none => rfl
  | some value =>
    cases value with
    | number n => rw [interpret, violation?_eq]; rfl
    | _ => rfl

end NumberSettings

namespace BooleanSettings

/-- What the settings record. -/
def draft (s : BooleanSettings) : Draft rulebook where
  constraint
    | BooleanRule.mustBeTrue => s.mustBeTrue
    | BooleanRule.mustBeFalse => s.mustBeFalse
  typeMessage := s.typeMessage
  last := s.last

theorem draft_setMessage (s : BooleanSettings) (text : String) :
    (s.setMessage text).draft = s.draft.call (.message text) := by
  rcases s with ⟨mustBeTrue, mustBeFalse, typeMessage, _ | last⟩
  · rfl
  · cases last <;> exact Draft.ext (funext fun rule => by cases rule <;> rfl) rfl rfl

theorem draft_set? (s : BooleanSettings) (setting : Setting) :
    (s.set? setting).map draft =
      (calls? setting).map fun calls => calls.foldl Draft.call s.draft := by
  cases setting with
  | message text => exact congrArg some (s.draft_setMessage text)
  | mustBeTrue | mustBeFalse =>
    exact congrArg some (Draft.ext (funext fun rule => by cases rule <;> rfl) rfl rfl)
  | _ => rfl

theorem mustBeTrueViolation_eq :
    mustBeTrueViolation = rulebook.check BooleanRule.mustBeTrue := by
  funext c b
  cases b <;> rfl

theorem violation?_eq (settings : BooleanSettings) (b : Bool) :
    settings.violation? b = settings.draft.violation? b := by
  refine Eq.trans ?_ (settings.draft.violation?_eq_or b).symm
  rw [violation?, mustBeTrueViolation_eq]
  show _ = (settings.mustBeTrue.bind (rulebook.check BooleanRule.mustBeTrue · b)).or
    ((settings.mustBeFalse.bind (mustBeFalseViolation · b)).or none)
  cases settings.mustBeTrue.bind (rulebook.check BooleanRule.mustBeTrue · b) with
  | some violation => rfl
  | none => exact Option.or_none.symm

theorem interpret_eq_outcome (settings : BooleanSettings) (options : BooleanOptions) :
    settings.interpret =
      Rulebook.outcome settings.draft.toDemands (Base.boolean options).accepted := by
  funext input path
  cases input with
  | none => rfl
  | some value =>
    cases value with
    | bool b => rw [interpret, violation?_eq]; rfl
    | _ => rfl

end BooleanSettings

namespace ArraySettings

/-- What the settings record. -/
def draft (s : ArraySettings) : Draft rulebook where
  constraint
    | ArrayRule.minLen => s.minLen
    | ArrayRule.maxLen => s.maxLen
  typeMessage := s.typeMessage
  last := s.last

theorem draft_setMessage (s : ArraySettings) (text : String) :
    (s.setMessage text).draft = s.draft.call (.message text) := by
  rcases s with ⟨minLen, maxLen, typeMessage, _ | last⟩
  · rfl
  · cases last <;> exact Draft.ext (funext fun rule => by cases rule <;> rfl) rfl rfl

theorem draft_set? (s : ArraySettings) (setting : Setting) :
    (s.set? setting).map draft =
      (calls? setting).map fun calls => calls.foldl Draft.call s.draft := by
  cases setting with
  | message text => exact congrArg some (s.draft_setMessage text)
  | minLen n | maxLen n | nonEmpty =>
    exact congrArg some (Draft.ext (funext fun rule => by cases rule <;> rfl) rfl rfl)
  | _ => rfl

theorem minLenViolation_eq (c : Constraint Nat) (items : List Value) :
    minLenViolation c items.length =
      rulebook.check ArrayRule.minLen c items := by
  simp [minLenViolation, Rulebook.check, rulebook]

theorem maxLenViolation_eq (c : Constraint Nat) (items : List Value) :
    maxLenViolation c items.length =
      rulebook.check ArrayRule.maxLen c items := by
  simp [maxLenViolation, Rulebook.check, rulebook]

theorem violation?_eq (settings : ArraySettings) (items : List Value) :
    settings.violation? items.length = settings.draft.violation? items := by
  refine Eq.trans ?_ (settings.draft.violation?_eq_or items).symm
  simp only [violation?, minLenViolation_eq, maxLenViolation_eq]
  show _ = (settings.minLen.bind (rulebook.check ArrayRule.minLen · items)).or
    ((settings.maxLen.bind (rulebook.check ArrayRule.maxLen · items)).or none)
  cases settings.minLen.bind (rulebook.check ArrayRule.minLen · items) with
  | some violation => rfl
  | none => exact Option.or_none.symm

theorem interpret_eq_outcome (settings : ArraySettings) (slot : Slot) {element own : Schema}
    (hown : own.interpret = element.interpret) (options : ArrayOptions) :
    (Schema.array slot own settings).interpret =
      Rulebook.outcome settings.draft.toDemands (Base.array element options).accepted := by
  funext input path
  cases input with
  | none => rfl
  | some value =>
    cases value with
    | array items =>
      rw [Schema.interpret, violation?_eq, hown]
      cases hviolation : settings.draft.violation? items with
      | some violation => exact (Rulebook.outcome_of_violation rfl hviolation path).symm
      | none =>
        refine Eq.trans ?_ (Rulebook.outcome_of_no_violation rfl hviolation path).symm
        show _ = (eachItem (fun item => element.interpret (some item)) path 0 items).map Output.array
        cases eachItem (fun item => element.interpret (some item)) path 0 items <;> rfl
    | _ => rfl

end ArraySettings

/-! ## Copies -/

namespace Schema

/-- A copy is interpreted as its original is. -/
theorem interpret_copy (s : Schema) : ∀ σ : Store, (s.copy σ).1.interpret = s.interpret := by
  induction s with
  | array slot element settings ih =>
    intro σ
    show (array _ (element.copy σ).1 settings).interpret = _
    rw [← routine_array, ih σ, routine_array]
  | optional slot inner ih =>
    intro σ
    show (optional _ (inner.copy σ).1).interpret = _
    rw [← routine_optional, ih σ, routine_optional]
  | nullable slot inner ih =>
    intro σ
    show (nullable _ (inner.copy σ).1).interpret = _
    rw [← routine_nullable, ih σ, routine_nullable]
  | refinement slot inner accepts message ih =>
    intro σ
    show (refinement _ (inner.copy σ).1 accepts message).interpret = _
    rw [← routine_refinement, ih σ, routine_refinement]
  | pipe slot first second ihFirst ihSecond =>
    intro σ
    show (pipe _ (first.copy σ).1 (second.copy (first.copy σ).2).1).interpret = _
    rw [← routine_pipe, ihFirst, ihSecond, routine_pipe]
  | shared access inner ih => exact fun σ => rfl
  | _ =>
    intro σ
    funext input path
    rfl

end Schema

/-! ## Builder calls -/

namespace Base

variable {base : Base} {d : Draft base.rulebook} {s : Schema}

/-- A schema of the kind of a base that records a draft. -/
def Made : (base : Base) → Draft base.rulebook → Schema → Prop
  | string _, d, s => ∃ slot settings, s = .string slot settings ∧ settings.draft = d
  | number _, d, s => ∃ slot settings, s = .number slot settings ∧ settings.draft = d
  | boolean _, d, s => ∃ slot settings, s = .boolean slot settings ∧ settings.draft = d
  | array element _, d, s => ∃ slot own settings,
    s = .array slot own settings ∧ own.interpret = element.interpret ∧ settings.draft = d

theorem Made.interpret_eq (h : base.Made d s) :
    s.interpret = Rulebook.outcome d.toDemands base.accepted := by
  cases base with
  | string options =>
    obtain ⟨slot, settings, rfl, rfl⟩ := h
    exact settings.interpret_eq_outcome options
  | number options =>
    obtain ⟨slot, settings, rfl, rfl⟩ := h
    exact settings.interpret_eq_outcome options
  | boolean options =>
    obtain ⟨slot, settings, rfl, rfl⟩ := h
    exact settings.interpret_eq_outcome options
  | array element options =>
    obtain ⟨slot, own, settings, rfl, hown, rfl⟩ := h
    exact settings.interpret_eq_outcome slot hown options

/-- What is left of a chain: nothing when a call of it does not apply, else a schema that records
    the calls. -/
def Leaves (base : Base) (d : Draft base.rulebook) (calls? : Option (List base.rulebook.Call))
    (result : Option Schema) : Prop :=
  match calls? with
  | none => result = none
  | some calls => ∃ made, result = some made ∧ base.Made (calls.foldl Draft.call d) made

theorem leaves_of_draft {S : Type} {draft : S → Draft base.rulebook} {changed : Option S}
    {calls? : Option (List base.rulebook.Call)} {result : Option Schema} (make : S → Schema)
    (hdraft : changed.map draft = calls?.map fun calls => calls.foldl Draft.call d)
    (hresult : result = changed.map make)
    (hmade : ∀ settings, base.Made (draft settings) (make settings)) :
    base.Leaves d calls? result := by
  subst hresult
  cases calls? with
  | none => exact congrArg (Option.map make) (Option.map_eq_none_iff.mp hdraft)
  | some calls =>
    obtain ⟨settings, rfl, hsettings⟩ := Option.map_eq_some_iff.mp hdraft
    have hrecorded : draft settings = calls.foldl Draft.call d := hsettings
    exact ⟨make settings, rfl, hrecorded ▸ hmade settings⟩

/-- A setting records the calls that it stands for. -/
theorem Made.set (h : base.Made d s) (setting : Setting) (σ : Store) :
    base.Leaves d (base.calls? setting) ((s.set setting σ).map Prod.fst) := by
  cases base with
  | string options =>
    obtain ⟨slot, settings, rfl, rfl⟩ := h
    refine leaves_of_draft (fun changed => .string σ.fresh.1 changed) (settings.draft_set? setting) ?_
      fun changed => ⟨_, _, rfl, rfl⟩
    simp only [Schema.set, Schema.node]
    cases settings.set? setting <;> rfl
  | number options =>
    obtain ⟨slot, settings, rfl, rfl⟩ := h
    refine leaves_of_draft (fun changed => .number σ.fresh.1 changed) (settings.draft_set? setting) ?_
      fun changed => ⟨_, _, rfl, rfl⟩
    simp only [Schema.set, Schema.node]
    cases settings.set? setting <;> rfl
  | boolean options =>
    obtain ⟨slot, settings, rfl, rfl⟩ := h
    refine leaves_of_draft (fun changed => .boolean σ.fresh.1 changed) (settings.draft_set? setting) ?_
      fun changed => ⟨_, _, rfl, rfl⟩
    simp only [Schema.set, Schema.node]
    cases settings.set? setting <;> rfl
  | array element options =>
    -- the element is copied along
    obtain ⟨slot, own, settings, rfl, hown, rfl⟩ := h
    refine leaves_of_draft (fun changed => .array (own.copy σ).2.fresh.1 (own.copy σ).1 changed)
      (settings.draft_set? setting) ?_
      fun changed => ⟨_, _, _, rfl, (own.interpret_copy σ).trans hown, rfl⟩
    simp only [Schema.set, Schema.node]
    cases settings.set? setting <;> rfl

theorem Leaves.append {calls : List base.rulebook.Call} {later? : Option (List base.rulebook.Call)}
    {result : Option Schema} (h : base.Leaves (calls.foldl Draft.call d) later? result) :
    base.Leaves d (later?.map fun later => calls ++ later) result := by
  cases later? with
  | none => exact h
  | some later =>
    obtain ⟨made, hresult, hmade⟩ := h
    exact ⟨made, hresult, by rwa [List.foldl_append]⟩

/-- So do settings one after the other. -/
theorem Made.setAll (h : base.Made d s) (changes : List (Setting × Store)) :
    base.Leaves d (base.allCalls? (changes.map Prod.fst)) (s.setAll changes) := by
  induction changes generalizing d s with
  | nil => exact ⟨s, rfl, h⟩
  | cons change rest ih =>
    obtain ⟨setting, σ⟩ := change
    have hfirst := h.set setting σ
    rw [List.map_cons, allCalls?, Schema.setAll]
    cases hcalls : base.calls? setting with
    | none =>
      rw [hcalls] at hfirst
      rw [Option.map_eq_none_iff.mp hfirst]
      rfl
    | some calls =>
      rw [hcalls] at hfirst
      obtain ⟨_, hmap, hmade⟩ := hfirst
      obtain ⟨made, hset, rfl⟩ := Option.map_eq_some_iff.mp hmap
      rw [hset]
      exact (ih hmade).append

theorem allCalls?_append (base : Base) (settings later : List Setting) :
    base.allCalls? (settings ++ later) = (base.allCalls? settings).bind fun calls =>
      (base.allCalls? later).map fun more => calls ++ more := by
  induction settings with
  | nil => simp [allCalls?]
  | cons setting rest ih =>
    rw [List.cons_append, allCalls?, allCalls?, ih]
    cases base.calls? setting with
    | none => rfl
    | some calls =>
      cases base.allCalls? rest with
      | none => rfl
      | some more => cases base.allCalls? later <;> simp

/-- The options have been recorded as the settings that they count as. -/
theorem leaves_start (base : Base) (slot : Slot) :
    base.Leaves .blank (base.allCalls? base.chosen) (some (base.start slot)) := by
  cases base with
  | string options =>
    rcases options with ⟨_ | _, _ | _, _ | _⟩ <;>
      exact ⟨_, rfl, _, _, rfl, Draft.ext (funext fun rule => by cases rule <;> rfl) rfl rfl⟩
  | number options =>
    rcases options with ⟨_ | _, _ | _, _ | _, _ | _⟩ <;>
      exact ⟨_, rfl, _, _, rfl, Draft.ext (funext fun rule => by cases rule <;> rfl) rfl rfl⟩
  | boolean options =>
    rcases options with ⟨_ | _, _ | _⟩ <;>
      exact ⟨_, rfl, _, _, rfl, Draft.ext (funext fun rule => by cases rule <;> rfl) rfl rfl⟩
  | array element options =>
    rcases options with ⟨_ | _, _ | _⟩ <;>
      exact ⟨_, rfl, _, _, _, rfl, rfl, Draft.ext (funext fun rule => by cases rule <;> rfl) rfl rfl⟩

/-- A chain of settings records the history of the schema that it makes. -/
theorem leaves_setAll (base : Base) (slot : Slot) (changes : List (Setting × Store)) :
    base.Leaves .blank (base.history? (changes.map Prod.fst)) ((base.start slot).setAll changes) := by
  have hstart := base.leaves_start slot
  rw [history?, allCalls?_append]
  cases hchosen : base.allCalls? base.chosen with
  | none =>
    rw [hchosen] at hstart
    cases hstart
  | some calls =>
    rw [hchosen] at hstart
    obtain ⟨_, heq, hmade⟩ := hstart
    cases heq
    exact (hmade.setAll changes).append

end Base

/-! ## Blueprints -/

namespace Blueprint

variable {env : Surroundings} {blueprint : Blueprint} {σ τ : Store} {s : Schema}

theorem build_foldl_set_error {e : BuildError} (h : blueprint.build env σ = .error e)
    (settings : List Setting) : (settings.foldl set blueprint).build env σ = .error e := by
  induction settings generalizing blueprint with
  | nil => exact h
  | cons setting rest ih =>
    refine ih ?_
    rw [build, h]
    rfl

/-- A blueprint with builder calls makes them one after the other. -/
theorem build_foldl_set (h : blueprint.build env σ = .ok (s, τ)) (settings : List Setting) :
    ∃ changes : List (Setting × Store), changes.map Prod.fst = settings ∧
      match s.setAll changes with
      | none => (settings.foldl set blueprint).build env σ = .error .notApplicable
      | some t => ∃ υ, (settings.foldl set blueprint).build env σ = .ok (t, υ) := by
  induction settings generalizing blueprint s τ with
  | nil => exact ⟨[], rfl, τ, h⟩
  | cons setting rest ih =>
    have hstep : (set blueprint setting).build env σ = applied (s.set setting τ) := by
      rw [build, h]
      rfl
    cases hset : s.set setting τ with
    | none =>
      rw [hset] at hstep
      refine ⟨(setting, τ) :: rest.map (·, τ), by simp [Function.comp_def], ?_⟩
      rw [Schema.setAll, hset]
      exact build_foldl_set_error hstep rest
    | some made =>
      rw [hset] at hstep
      obtain ⟨changes, rfl, hrest⟩ := ih hstep
      refine ⟨(setting, τ) :: changes, rfl, ?_⟩
      rw [Schema.setAll, hset]
      exact hrest

end Blueprint

/-! ## Main statement -/

namespace Base

variable {base : Base}

/-- A schema validates as a history says, by the interpreter and compiled in any session that it is a
    node of. -/
structure Validates (base : Base) (calls : List base.rulebook.Call) (t : Schema) : Prop where
  interpret_eq : t.interpret = base.outcome calls
  runs : ∀ dialect steps, t ∈ (Session.reached dialect steps).nodes → ∀ input path,
    (t.validate input path (Session.reached dialect steps).store).1 = base.outcome calls input path

theorem Made.validates {calls : List base.rulebook.Call} {t : Schema}
    (h : base.Made (calls.foldl Draft.call .blank) t) : base.Validates calls t := by
  have hinterpret : t.interpret = base.outcome calls := by
    rw [h.interpret_eq, Rulebook.foldl_call, outcome]
  refine ⟨hinterpret, fun dialect steps ht input path => ?_⟩
  rw [(Session.reached_runsAsInterpreted ht).validate_eq, hinterpret]

/-- What builder calls on a base come to. -/
structure FollowsHistory (base : Base) (settings : List Setting) : Prop where
  /-- A chain with a call that does not apply to the kind makes nothing. -/
  refused : base.history? settings = none → ∀ slot changes, changes.map Prod.fst = settings →
    (base.start slot).setAll changes = none
  /-- Any other makes a schema that validates as the history says, whatever happens to the store
      between the calls. -/
  made : ∀ calls, base.history? settings = some calls →
    ∀ slot changes, changes.map Prod.fst = settings →
      ∃ t, (base.start slot).setAll changes = some t ∧ base.Validates calls t
  /-- So does a blueprint that makes the base and the calls. -/
  built : ∀ (env : Surroundings) (blueprint : Blueprint) (σ τ : Store) (slot : Slot),
    blueprint.build env σ = .ok (base.start slot, τ) →
      match base.history? settings with
      | none => (settings.foldl Blueprint.set blueprint).build env σ = .error .notApplicable
      | some calls => ∃ t υ,
        (settings.foldl Blueprint.set blueprint).build env σ = .ok (t, υ) ∧ base.Validates calls t
  /-- A message as the next call lands in one place. -/
  lands : ∀ calls, base.history? settings = some calls → ∀ text,
    base.history? (settings ++ [.message text]) = some (calls ++ [.message text]) ∧
      Rulebook.Lands calls text

theorem history?_message (base : Base) (settings : List Setting) (text : String) :
    base.history? (settings ++ [.message text]) =
      (base.history? settings).map fun calls => calls ++ [.message text] := by
  have hmessage : base.allCalls? [.message text] = some [.message text] := by
    cases base <;> rfl
  rw [history?, ← List.append_assoc, allCalls?_append, hmessage, history?]
  cases base.allCalls? (base.chosen ++ settings) <;> rfl

theorem validates_setAll {calls : List base.rulebook.Call} {changes : List (Setting × Store)}
    (h : base.history? (changes.map Prod.fst) = some calls) (slot : Slot) :
    ∃ t, (base.start slot).setAll changes = some t ∧ base.Validates calls t := by
  have hleaves := base.leaves_setAll slot changes
  rw [h] at hleaves
  obtain ⟨t, hset, hmade⟩ := hleaves
  exact ⟨t, hset, hmade.validates⟩

theorem setAll_eq_none {changes : List (Setting × Store)}
    (h : base.history? (changes.map Prod.fst) = none) (slot : Slot) :
    (base.start slot).setAll changes = none := by
  have hleaves := base.leaves_setAll slot changes
  rwa [h] at hleaves

/-- **Histories.** The builder calls that a schema for strings, numbers, booleans or arrays was made by
    decide how it validates, for every base and every sequence of calls. -/
theorem follows_history (base : Base) (settings : List Setting) : base.FollowsHistory settings where
  refused := by
    rintro h slot changes rfl
    exact setAll_eq_none h slot
  made := by
    rintro calls h slot changes rfl
    exact validates_setAll h slot
  built := by
    intro env blueprint σ τ slot hbuild
    obtain ⟨changes, rfl, hchain⟩ := Blueprint.build_foldl_set hbuild settings
    cases hcalls : base.history? (changes.map Prod.fst) with
    | none => rwa [setAll_eq_none hcalls slot] at hchain
    | some calls =>
      obtain ⟨t, hset, hvalidates⟩ := validates_setAll hcalls slot
      rw [hset] at hchain
      obtain ⟨υ, hbuilt⟩ := hchain
      exact ⟨t, υ, hbuilt, hvalidates⟩
  lands := by
    intro calls h text
    exact ⟨by rw [history?_message, h, Option.map_some], Rulebook.lands calls text⟩

/-- A rule that is demanded again has lost its message. -/
example : (string { minLen := some 3 }).outcome
    [.demand StringRule.minLen (3 : Nat), .message "short", .demand StringRule.minLen (1 : Nat)]
    (some (.string "")) .root =
      Outcome.fail .root .lengthOutOfBounds "String must be at least 1 characters"
        (some (.string "")) := rfl

end Base

end JsonValidation
