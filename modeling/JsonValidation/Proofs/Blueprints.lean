import JsonValidation.Blueprint
import JsonValidation.Proofs.Building

/-!
# Building blueprints

A blueprint is built by builder calls, from the inside out. If everything that it can refer to is
placed, then so is the schema that it makes.

* `Blueprint.Makes`, `Blueprint.makes`: what a blueprint makes is placed, and it is new and not
  compiled unless the blueprint only refers to a schema.
-/

namespace JsonValidation

open Store

theorem exists_of_bind_eq_ok {ε α β : Type} {x : Except ε α} {f : α → Except ε β} {b : β}
    (h : x >>= f = .ok b) : ∃ a, x = .ok a ∧ f a = .ok b := by
  cases x with
  | error e => cases h
  | ok a => exact ⟨a, rfl, h⟩

/-- All schemas that can be referred to are placed. -/
structure Surroundings.Placed (owner : Ownership) (bound : Slot) (env : Surroundings) : Prop where
  defined : ∀ name s, env.defined? name = some s → s.Placed owner bound
  registered : ∀ name s, env.registered? name = some s → s.Placed owner bound

theorem Surroundings.Placed.extends {owner owner' : Ownership} {σ σ' : Store} {env : Surroundings}
    (henv : env.Placed owner σ.next) (h : Extends owner σ owner' σ') :
    env.Placed owner' σ'.next :=
  ⟨fun name s hs => h.placed (henv.defined name s hs),
    fun name s hs => h.placed (henv.registered name s hs)⟩

namespace Blueprint

variable {env : Surroundings}

/-- Whether a blueprint only refers to a schema that exists, as a copy or as the schema itself. -/
def isReference : Blueprint → Bool
  | copyOf _ => true
  | share _ => true
  | registered _ => true
  | _ => false

theorem applied_eq_ok {call : Option (Schema × Store)} {result : Schema × Store}
    (h : applied call = .ok result) : call = some result := by
  cases call with
  | none => cases h
  | some made => cases h; rfl

/-- What a blueprint makes. -/
def Makes (env : Surroundings) (b : Blueprint) : Prop :=
  ∀ (owner : Ownership) (σ : Store) (result : Schema × Store), σ.Coherent owner →
    env.Placed owner σ.next → build env b σ = .ok result →
      Yields owner σ result ∧ (b.isReference = false → Fresh σ result)

/-- A call on a receiver, given what the call makes of the receiver. -/
theorem makes_of_call {b receiver : Blueprint} (hreceiver : Makes env receiver)
    {f : Schema → Store → Except BuildError (Schema × Store)}
    (hbuild : ∀ σ, build env b σ = build env receiver σ >>= fun made => f made.1 made.2)
    (hcall : ∀ (owner : Ownership) (σ : Store) (s : Schema) (result : Schema × Store),
      σ.Coherent owner → env.Placed owner σ.next → s.Placed owner σ.next →
        f s σ = .ok result → Built owner σ result) : Makes env b := by
  intro owner σ result h henv hresult
  rw [hbuild] at hresult
  obtain ⟨made, hmade, hresult⟩ := exists_of_bind_eq_ok hresult
  obtain ⟨⟨owner', hextends, hplaced⟩, -⟩ := hreceiver owner σ made h henv hmade
  have hbuilt := hcall owner' made.2 made.1 result hextends.coherent (henv.extends hextends)
    hplaced hresult
  exact ⟨(hbuilt.after hextends).1, fun _ => (hbuilt.after hextends).2⟩

/-- A call on a receiver with an argument that is built after it. -/
theorem makes_of_call₂ {b receiver argument : Blueprint} (hreceiver : Makes env receiver)
    (hargument : Makes env argument)
    {f : Schema → Schema → Store → Except BuildError (Schema × Store)}
    (hbuild : ∀ σ, build env b σ = build env receiver σ >>= fun made =>
      build env argument made.2 >>= fun made' => f made.1 made'.1 made'.2)
    (hcall : ∀ (owner : Ownership) (σ : Store) (s t : Schema) (result : Schema × Store),
      σ.Coherent owner → s.Placed owner σ.next → t.Placed owner σ.next →
        f s t σ = .ok result → Built owner σ result) : Makes env b := by
  refine makes_of_call (f := fun s σ => build env argument σ >>= fun made => f s made.1 made.2)
    hreceiver hbuild fun owner σ s result h henv hs hresult => ?_
  obtain ⟨made, hmade, hresult⟩ := exists_of_bind_eq_ok hresult
  obtain ⟨⟨owner', hextends, hplaced⟩, -⟩ := hargument owner σ made h henv hmade
  exact (hcall owner' made.2 s made.1 result hextends.coherent (hextends.placed hs) hplaced
    hresult).after hextends

/-- A new node without children. -/
theorem create_leaf_makes {owner : Ownership} {σ : Store} {b : Blueprint} (h : σ.Coherent owner)
    (node : Slot → Schema) (hnode : ∀ k, (node k).node = node k) (hslot : ∀ k, (node k).slot = k)
    (hchildren : ∀ k, (node k).children = []) :
    Yields owner σ (Schema.create σ node) ∧
      (b.isReference = false → Fresh σ (Schema.create σ node)) := by
  have hbuilt := Schema.create_built (.refl h) node hnode hslot (by simp [hchildren])
  exact ⟨hbuilt.1, fun _ => hbuilt.2⟩

mutual

/-- **Blueprints.** What a blueprint makes is placed, and is new and not compiled unless the blueprint
    is a reference. -/
theorem makes (env : Surroundings) : ∀ b : Blueprint, Makes env b
  | .string minLen maxLen pattern => by
    intro owner σ result h henv hresult
    obtain ⟨pattern, -, hresult⟩ := exists_of_bind_eq_ok hresult
    cases hresult
    exact create_leaf_makes h _ (fun _ => rfl) (fun _ => rfl) (fun _ => rfl)
  | .number options => by
    intro owner σ result h henv hresult
    cases hresult
    exact create_leaf_makes h _ (fun _ => rfl) (fun _ => rfl) (fun _ => rfl)
  | .boolean options => by
    intro owner σ result h henv hresult
    cases hresult
    exact create_leaf_makes h _ (fun _ => rfl) (fun _ => rfl) (fun _ => rfl)
  | .literal expected => by
    intro owner σ result h henv hresult
    cases hresult
    exact create_leaf_makes h _ (fun _ => rfl) (fun _ => rfl) (fun _ => rfl)
  | .literalFloat x => by
    intro owner σ result h henv hresult
    rw [build] at hresult
    split at hresult
    · cases hresult
      exact create_leaf_makes h _ (fun _ => rfl) (fun _ => rfl) (fun _ => rfl)
    · cases hresult
  | .array element options => by
    intro owner σ result h henv hresult
    obtain ⟨made, hmade, hresult⟩ := exists_of_bind_eq_ok hresult
    obtain ⟨⟨owner', hextends, hplaced⟩, -⟩ := makes env element owner σ made h henv hmade
    cases hresult
    have hbuilt := Schema.create_built hextends
      (fun slot => .array slot made.1 (.ofOptions options)) (fun _ => rfl) (fun _ => rfl)
      (by simpa [Schema.children] using hplaced)
    exact ⟨hbuilt.1, fun _ => hbuilt.2⟩
  | .object shape => by
    intro owner σ result h henv hresult
    obtain ⟨made, hmade, hresult⟩ := exists_of_bind_eq_ok hresult
    obtain ⟨owner', hextends, hplaced⟩ := makesFields env shape owner σ made h henv hmade
    cases hresult
    have hbuilt := Schema.create_object_built hextends
      (fun f hf => hplaced f (Shape.mem_ofList hf)) none
    exact ⟨hbuilt.1, fun _ => hbuilt.2⟩
  | .union alternatives => by
    intro owner σ result h henv hresult
    obtain ⟨made, hmade, hresult⟩ := exists_of_bind_eq_ok hresult
    obtain ⟨owner', hextends, hplaced⟩ := makesAll env alternatives owner σ made h henv hmade
    cases hresult
    have hbuilt := Schema.create_built hextends (fun slot => .union slot made.1) (fun _ => rfl)
      (fun _ => rfl) (fun _ => hplaced)
    exact ⟨hbuilt.1, fun _ => hbuilt.2⟩
  | .copyOf name => by
    intro owner σ result h henv hresult
    rw [build] at hresult
    split at hresult
    · rename_i schema hschema
      cases hresult
      obtain ⟨owner', hextends, hplaced, -⟩ :=
        schema.copy_copied owner σ h (henv.defined name schema hschema)
      exact ⟨⟨owner', hextends, hplaced⟩, fun hb => by cases hb⟩
    · cases hresult
  | .share name => by
    intro owner σ result h henv hresult
    rw [build] at hresult
    split at hresult
    · rename_i schema hschema
      cases hresult
      have hplaced := (henv.defined name schema hschema).of_nodes_subset
        (t := .shared .direct schema) fun _ hn => hn
      exact ⟨⟨owner, .refl h, hplaced⟩, fun hb => by cases hb⟩
    · cases hresult
  | .registered name => by
    intro owner σ result h henv hresult
    rw [build] at hresult
    split at hresult
    · rename_i schema hschema
      cases hresult
      have hplaced := (henv.registered name schema hschema).of_nodes_subset
        (t := .shared .registry schema) fun _ hn => hn
      exact ⟨⟨owner, .refl h, hplaced⟩, fun hb => by cases hb⟩
    · cases hresult
  | .set receiver setting =>
    makes_of_call (makes env receiver) (f := fun s σ => applied (s.set setting σ)) (fun _ => rfl)
      fun owner σ s result h henv hs hresult => Schema.set_built h hs (applied_eq_ok hresult)
  | .setPattern receiver source =>
    makes_of_call (makes env receiver)
      (f := fun s σ => readPattern env source >>= fun p => applied (s.set (.pattern p) σ))
      (fun _ => rfl) fun owner σ s result h henv hs hresult => by
        obtain ⟨p, -, hresult⟩ := exists_of_bind_eq_ok hresult
        exact Schema.set_built h hs (applied_eq_ok hresult)
  | .field receiver name schema =>
    makes_of_call₂ (makes env receiver) (makes env schema)
      (f := fun s t σ => applied (s.addField name t σ)) (fun _ => rfl)
      fun owner σ s t result h hs ht hresult =>
        Schema.addField_built (.refl h) hs ht (applied_eq_ok hresult)
  | .optionalField receiver name schema =>
    makes_of_call₂ (makes env receiver) (makes env schema)
      (f := fun s t σ => applied (s.addOptionalField name t σ)) (fun _ => rfl)
      fun owner σ s t result h hs ht hresult =>
        Schema.addOptionalField_built h hs ht (applied_eq_ok hresult)
  | .extend receiver other =>
    makes_of_call₂ (makes env receiver) (makes env other)
      (f := fun s t σ => applied (s.extend t σ)) (fun _ => rfl)
      fun owner σ s t result h hs ht hresult =>
        Schema.extend_built h hs ht (applied_eq_ok hresult)
  | .alternative receiver schema =>
    makes_of_call₂ (makes env receiver) (makes env schema)
      (f := fun s t σ => applied (s.addAlternative t σ)) (fun _ => rfl)
      fun owner σ s t result h hs ht hresult =>
        Schema.addAlternative_built h hs ht (applied_eq_ok hresult)
  | .optional receiver =>
    makes_of_call (makes env receiver) (f := fun s σ => .ok (s.asOptional σ)) (fun _ => rfl)
      fun owner σ s result h henv hs hresult => by
        cases hresult
        exact Schema.asOptional_built h hs
  | .nullable receiver =>
    makes_of_call (makes env receiver) (f := fun s σ => .ok (s.asNullable σ)) (fun _ => rfl)
      fun owner σ s result h henv hs hresult => by
        cases hresult
        exact Schema.asNullable_built h hs
  | .refine receiver accepts message =>
    makes_of_call (makes env receiver)
      (f := fun s σ => .ok (s.refine accepts (message.getD Schema.defaultRefinementMessage) σ))
      (fun _ => rfl) fun owner σ s result h henv hs hresult => by
        cases hresult
        exact Schema.refine_built h hs accepts _
  | .pipe receiver next =>
    makes_of_call₂ (makes env receiver) (makes env next)
      (f := fun s t σ => .ok (s.pipeTo t σ)) (fun _ => rfl)
      fun owner σ s t result h hs ht hresult => by
        cases hresult
        exact Schema.pipeTo_built h hs ht

/-- The fields that the blueprints of a shape make are placed. -/
theorem makesFields (env : Surroundings) : ∀ (shape : List (String × Blueprint)) (owner : Ownership)
    (σ : Store) (result : List (String × Schema) × Store), σ.Coherent owner →
      env.Placed owner σ.next → buildFields env shape σ = .ok result →
        ∃ owner', Extends owner σ owner' result.2 ∧ ∀ f ∈ result.1, f.2.Placed owner' result.2.next
  | [], owner, σ, result, h, henv, hresult => by
    cases hresult
    exact ⟨owner, .refl h, by simp⟩
  | (name, blueprint) :: rest, owner, σ, result, h, henv, hresult => by
    obtain ⟨made, hmade, hresult⟩ := exists_of_bind_eq_ok hresult
    obtain ⟨⟨owner₁, hext₁, hplaced⟩, -⟩ := makes env blueprint owner σ made h henv hmade
    obtain ⟨fields, hfields, hresult⟩ := exists_of_bind_eq_ok hresult
    obtain ⟨owner₂, hext₂, hrest⟩ :=
      makesFields env rest owner₁ made.2 fields hext₁.coherent (henv.extends hext₁) hfields
    cases hresult
    exact ⟨owner₂, hext₁.trans hext₂, List.forall_mem_cons.mpr ⟨hext₂.placed hplaced, hrest⟩⟩

/-- The schemas that a list of blueprints makes are placed. -/
theorem makesAll (env : Surroundings) : ∀ (blueprints : List Blueprint) (owner : Ownership)
    (σ : Store) (result : List Schema × Store), σ.Coherent owner → env.Placed owner σ.next →
      buildAll env blueprints σ = .ok result →
        ∃ owner', Extends owner σ owner' result.2 ∧ ∀ a ∈ result.1, a.Placed owner' result.2.next
  | [], owner, σ, result, h, henv, hresult => by
    cases hresult
    exact ⟨owner, .refl h, by simp⟩
  | blueprint :: rest, owner, σ, result, h, henv, hresult => by
    obtain ⟨made, hmade, hresult⟩ := exists_of_bind_eq_ok hresult
    obtain ⟨⟨owner₁, hext₁, hplaced⟩, -⟩ := makes env blueprint owner σ made h henv hmade
    obtain ⟨schemas, hschemas, hresult⟩ := exists_of_bind_eq_ok hresult
    obtain ⟨owner₂, hext₂, hrest⟩ :=
      makesAll env rest owner₁ made.2 schemas hext₁.coherent (henv.extends hext₁) hschemas
    cases hresult
    exact ⟨owner₂, hext₁.trans hext₂, List.forall_mem_cons.mpr ⟨hext₂.placed hplaced, hrest⟩⟩

end

end Blueprint

end JsonValidation
