import JsonValidation.Blueprint
import JsonValidation.Schema.Nodes

/-!
# Building does not look into slots

Which schema a builder makes depends on the slots that are in use, and not on what they hold. So two
stores that hand out the same slot next are as good as each other for building.

* `Store.visible`: what is left of a result when the caches are forgotten.
* `copy_visible`, `set_visible` and the like: the builders one by one.
* `Blueprint.build_ignoresCaches`: all blueprints.
-/

namespace JsonValidation

namespace Store

/-- A result without the caches: the value, and the slot that is handed out next. -/
def visible {α : Type} (result : α × Store) : α × Slot := (result.1, result.2.next)

/-- A computation whose value, or failure, does not depend on what the slots hold. -/
def IgnoresCaches {ε α : Type} (f : Store → Except ε (α × Store)) : Prop :=
  ∀ σ τ : Store, σ.next = τ.next → (f σ).map visible = (f τ).map visible

variable {ε α β : Type}

theorem IgnoresCaches.of_ok {f : Store → α × Store}
    (h : ∀ σ τ : Store, σ.next = τ.next → visible (f σ) = visible (f τ)) :
    IgnoresCaches fun σ => (.ok (f σ) : Except ε (α × Store)) :=
  fun σ τ hnext => congrArg Except.ok (h σ τ hnext)

theorem IgnoresCaches.error (e : ε) :
    IgnoresCaches fun _ => (.error e : Except ε (α × Store)) :=
  fun _ _ _ => rfl

/-- One computation after another. -/
theorem IgnoresCaches.bind {f : Store → Except ε (α × Store)}
    {g : α → Store → Except ε (β × Store)} (hf : IgnoresCaches f) (hg : ∀ a, IgnoresCaches (g a)) :
    IgnoresCaches fun σ => f σ >>= fun result => g result.1 result.2 := by
  intro σ τ hnext
  have hfst := hf σ τ hnext
  show (f σ >>= fun result => g result.1 result.2).map visible =
    (f τ >>= fun result => g result.1 result.2).map visible
  cases hσ : f σ with
  | error e =>
    cases hτ : f τ with
    | error e' =>
      rw [hσ, hτ] at hfst
      cases hfst
      rfl
    | ok b => rw [hσ, hτ] at hfst; cases hfst
  | ok a =>
    cases hτ : f τ with
    | error e' => rw [hσ, hτ] at hfst; cases hfst
    | ok b =>
      rw [hσ, hτ] at hfst
      obtain ⟨hvalue, hnext'⟩ := Prod.mk.inj (Except.ok.inj hfst)
      show (g a.1 a.2).map visible = (g b.1 b.2).map visible
      rw [hvalue]
      exact hg b.1 a.2 b.2 hnext'

end Store

namespace Schema

open Store

variable {σ τ : Store}

theorem create_visible (h : σ.next = τ.next) (node : Slot → Schema) :
    visible (create σ node) = visible (create τ node) := by
  show (node σ.next, σ.next + 1) = (node τ.next, τ.next + 1)
  rw [h]

/-- A new node around a copied child. -/
theorem around_visible {child : Schema} (h : visible (child.copy σ) = visible (child.copy τ))
    (node : Schema → Slot → Schema) (slot : Slot) :
    visible (node (child.copy σ).1 (child.copy σ).2.next, ((child.copy σ).2.copy slot).2) =
      visible (node (child.copy τ).1 (child.copy τ).2.next, ((child.copy τ).2.copy slot).2) := by
  obtain ⟨hchild, hnext⟩ := Prod.mk.inj h
  show (node (child.copy σ).1 (child.copy σ).2.next, (child.copy σ).2.next + 1) =
    (node (child.copy τ).1 (child.copy τ).2.next, (child.copy τ).2.next + 1)
  rw [hchild, hnext]

theorem copy_visible (s : Schema) :
    ∀ σ τ : Store, σ.next = τ.next → visible (s.copy σ) = visible (s.copy τ) := by
  induction s with
  | array slot element settings ih =>
    exact fun σ τ h => around_visible (ih σ τ h) (fun c k => array k c settings) slot
  | optional slot inner ih =>
    exact fun σ τ h => around_visible (ih σ τ h) (fun c k => optional k c) slot
  | nullable slot inner ih =>
    exact fun σ τ h => around_visible (ih σ τ h) (fun c k => nullable k c) slot
  | refinement slot inner accepts message ih =>
    exact fun σ τ h =>
      around_visible (ih σ τ h) (fun c k => refinement k c accepts message) slot
  | pipe slot first second ihFirst ihSecond =>
    intro σ τ h
    obtain ⟨hfirst, hnext₁⟩ := Prod.mk.inj (ihFirst σ τ h)
    obtain ⟨hsecond, hnext₂⟩ := Prod.mk.inj (ihSecond _ _ hnext₁)
    show (pipe (second.copy (first.copy σ).2).2.next (first.copy σ).1
        (second.copy (first.copy σ).2).1, (second.copy (first.copy σ).2).2.next + 1) =
      (pipe (second.copy (first.copy τ).2).2.next (first.copy τ).1
        (second.copy (first.copy τ).2).1, (second.copy (first.copy τ).2).2.next + 1)
    rw [hfirst, hsecond, hnext₂]
  | shared access inner ih =>
    intro σ τ h
    show (shared access inner, σ.next) = (shared access inner, τ.next)
    rw [h]
  | string slot settings => exact fun σ τ h => create_visible h fun slot => string slot settings
  | number slot settings => exact fun σ τ h => create_visible h fun slot => number slot settings
  | boolean slot settings => exact fun σ τ h => create_visible h fun slot => boolean slot settings
  | literal slot expected => exact fun σ τ h => create_visible h fun slot => literal slot expected
  | object slot fields typeMessage =>
    exact fun σ τ h => create_visible h fun slot => object slot fields typeMessage
  | union slot alternatives => exact fun σ τ h => create_visible h fun slot => union slot alternatives

/-- A new node around a copy. -/
theorem create_copy_visible (h : σ.next = τ.next) (s : Schema) (node : Schema → Slot → Schema) :
    visible (create (s.copy σ).2 (node (s.copy σ).1)) =
      visible (create (s.copy τ).2 (node (s.copy τ).1)) := by
  obtain ⟨hcopy, hnext⟩ := Prod.mk.inj (copy_visible s σ τ h)
  rw [hcopy]
  exact create_visible hnext _

theorem set_visible (h : σ.next = τ.next) (s : Schema) (setting : Setting) :
    (s.set setting σ).map visible = (s.set setting τ).map visible := by
  unfold set
  split
  · rename_i settings hnode
    cases settings.set? setting with
    | none => rfl
    | some changed => exact congrArg some (create_visible h fun slot => string slot changed)
  · rename_i settings hnode
    cases settings.set? setting with
    | none => rfl
    | some changed => exact congrArg some (create_visible h fun slot => number slot changed)
  · rename_i settings hnode
    cases settings.set? setting with
    | none => rfl
    | some changed => exact congrArg some (create_visible h fun slot => boolean slot changed)
  · rename_i element settings hnode
    cases settings.set? setting with
    | none => rfl
    | some changed =>
      exact congrArg some (create_copy_visible h element fun c slot => array slot c changed)
  · split
    · exact congrArg some (create_visible h _)
    · rfl
  · rfl

theorem addField_visible (h : σ.next = τ.next) (s : Schema) (name : String) (field : Schema) :
    (s.addField name field σ).map visible = (s.addField name field τ).map visible := by
  unfold addField
  split
  · exact congrArg some (create_visible h _)
  · rfl

theorem addOptionalField_visible (h : σ.next = τ.next) (s : Schema) (name : String)
    (field : Schema) : (s.addOptionalField name field σ).map visible =
      (s.addOptionalField name field τ).map visible := by
  obtain ⟨hfield, hnext⟩ := Prod.mk.inj (create_visible h fun slot => optional slot field)
  unfold addOptionalField
  dsimp only
  rw [hfield]
  exact addField_visible hnext s name _

theorem extend_visible (h : σ.next = τ.next) (s other : Schema) :
    (s.extend other σ).map visible = (s.extend other τ).map visible := by
  unfold extend
  split
  · exact congrArg some (create_visible h _)
  · rfl

theorem addAlternative_visible (h : σ.next = τ.next) (s alternative : Schema) :
    (s.addAlternative alternative σ).map visible = (s.addAlternative alternative τ).map visible := by
  unfold addAlternative
  split
  · exact congrArg some (create_visible h _)
  · rfl

end Schema

namespace Blueprint

open Store

variable (env : Surroundings)

theorem ignoresCaches_applied {call : Store → Option (Schema × Store)}
    (h : ∀ σ τ : Store, σ.next = τ.next → (call σ).map visible = (call τ).map visible) :
    IgnoresCaches fun σ => applied (call σ) := by
  intro σ τ hnext
  have hcall := h σ τ hnext
  show (applied (call σ)).map visible = (applied (call τ)).map visible
  cases hσ : call σ with
  | none =>
    rw [hσ] at hcall
    rw [Option.map_eq_none_iff.mp hcall.symm]
  | some made =>
    rw [hσ] at hcall
    obtain ⟨made', hτ, hmade⟩ := Option.map_eq_some_iff.mp hcall.symm
    rw [hτ]
    exact congrArg Except.ok hmade.symm

mutual

/-- **Building ignores caches.** Stores that hand out the same slot next make the same schemas. -/
theorem build_ignoresCaches : ∀ b : Blueprint, IgnoresCaches (build env b)
  | .string minLen maxLen pattern => by
    intro σ τ h
    rw [build, build]
    cases readPattern? env pattern with
    | error e => rfl
    | ok p => exact congrArg Except.ok (Schema.create_visible h _)
  | .number options => .of_ok fun σ τ h => Schema.create_visible h _
  | .boolean options => .of_ok fun σ τ h => Schema.create_visible h _
  | .literal expected => .of_ok fun σ τ h => Schema.create_visible h _
  | .literalFloat x => by
    intro σ τ h
    rw [build, build]
    cases Literal.ofBinary64? x with
    | none => rfl
    | some expected => exact congrArg Except.ok (Schema.create_visible h _)
  | .array element options =>
    (build_ignoresCaches element).bind fun s => .of_ok
      (f := fun σ => Schema.create σ fun slot => .array slot s (.ofOptions options)) fun σ τ h =>
        Schema.create_visible h _
  | .object shape =>
    (buildFields_ignoresCaches shape).bind fun fields => .of_ok
      (f := fun σ => Schema.create σ fun slot => .object slot (Shape.ofList fields) none)
      fun σ τ h => Schema.create_visible h _
  | .union alternatives =>
    (buildAll_ignoresCaches alternatives).bind fun schemas => .of_ok
      (f := fun σ => Schema.create σ fun slot => .union slot schemas) fun σ τ h =>
        Schema.create_visible h _
  | .copyOf name => by
    intro σ τ h
    rw [build, build]
    cases env.defined? name with
    | none => rfl
    | some schema => exact congrArg Except.ok (Schema.copy_visible schema σ τ h)
  | .share name => by
    intro σ τ h
    rw [build, build]
    cases env.defined? name with
    | none => rfl
    | some schema => exact congrArg Except.ok (congrArg (Prod.mk _) h)
  | .registered name => by
    intro σ τ h
    rw [build, build]
    cases env.registered? name with
    | none => rfl
    | some schema => exact congrArg Except.ok (congrArg (Prod.mk _) h)
  | .set receiver setting =>
    (build_ignoresCaches receiver).bind fun s => ignoresCaches_applied fun σ τ h =>
      s.set_visible h setting
  | .setPattern receiver source =>
    (build_ignoresCaches receiver).bind
      (g := fun (s : Schema) σ =>
        readPattern env source >>= fun p => applied (s.set (.pattern p) σ))
      fun s => by
        cases readPattern env source with
        | error e => exact .error e
        | ok p => exact ignoresCaches_applied fun σ τ h => s.set_visible h (.pattern p)
  | .field receiver name schema =>
    (build_ignoresCaches receiver).bind fun s => (build_ignoresCaches schema).bind fun t =>
      ignoresCaches_applied fun σ τ h => s.addField_visible h name t
  | .optionalField receiver name schema =>
    (build_ignoresCaches receiver).bind fun s => (build_ignoresCaches schema).bind fun t =>
      ignoresCaches_applied fun σ τ h => s.addOptionalField_visible h name t
  | .extend receiver other =>
    (build_ignoresCaches receiver).bind fun s => (build_ignoresCaches other).bind fun t =>
      ignoresCaches_applied fun σ τ h => s.extend_visible h t
  | .alternative receiver schema =>
    (build_ignoresCaches receiver).bind fun s => (build_ignoresCaches schema).bind fun t =>
      ignoresCaches_applied fun σ τ h => s.addAlternative_visible h t
  | .optional receiver =>
    (build_ignoresCaches receiver).bind fun s => .of_ok fun σ τ h =>
      Schema.create_copy_visible h s fun c slot => .optional slot c
  | .nullable receiver =>
    (build_ignoresCaches receiver).bind fun s => .of_ok fun σ τ h =>
      Schema.create_copy_visible h s fun c slot => .nullable slot c
  | .refine receiver accepts message =>
    (build_ignoresCaches receiver).bind fun s => .of_ok fun σ τ h =>
      Schema.create_copy_visible h s fun c slot =>
        .refinement slot c accepts (message.getD Schema.defaultRefinementMessage)
  | .pipe receiver next =>
    (build_ignoresCaches receiver).bind fun s => (build_ignoresCaches next).bind fun t =>
      .of_ok fun σ τ h => Schema.create_copy_visible h s fun c slot => .pipe slot c t

theorem buildFields_ignoresCaches :
    ∀ shape : List (String × Blueprint), IgnoresCaches (buildFields env shape)
  | [] => .of_ok fun _ _ h => congrArg (Prod.mk _) h
  | (name, blueprint) :: rest =>
    (build_ignoresCaches blueprint).bind fun s => (buildFields_ignoresCaches rest).bind fun fields =>
      .of_ok (f := fun σ => ((name, s) :: fields, σ)) fun _ _ h => congrArg (Prod.mk _) h

theorem buildAll_ignoresCaches :
    ∀ blueprints : List Blueprint, IgnoresCaches (buildAll env blueprints)
  | [] => .of_ok fun _ _ h => congrArg (Prod.mk _) h
  | blueprint :: rest =>
    (build_ignoresCaches blueprint).bind fun s => (buildAll_ignoresCaches rest).bind fun schemas =>
      .of_ok (f := fun σ => (s :: schemas, σ)) fun _ _ h => congrArg (Prod.mk _) h

end

end Blueprint

end JsonValidation
