import JsonValidation.Proofs.Footprint
import JsonValidation.Proofs.Registries
import JsonValidation.Proofs.Replies

/-!
# Warming

Warming passes over the entries of a registry, in the order in which they are enumerated, and compiles
those that are not compiled when their turn comes. One entry may be a part of another one or the same
node under another name, and then the order decides which of them is compiled in its own turn. What is
compiled in the end is the same for all orders.

* `warmAll_append`, `warmAll_of_compiled`, `isCompiled_warmAll`: how passes are composed and what they
  leave behind.
* `Compiled.caches_eq`: stretches of compilation with the same targets leave the same routines.
* `Registry.warm_eq_warmAll`: warming with the names in some order is the pass in this order.
* `Session.WarmSettles`, `warm_settles`: what warming comes to, whatever the order.
-/

namespace JsonValidation

/-- A pass over two lists. -/
theorem warmAll_append (xs ys : List Schema) :
    ∀ σ : Store, warmAll (xs ++ ys) σ =
      ((warmAll xs σ).1 + (warmAll ys (warmAll xs σ).2).1, (warmAll ys (warmAll xs σ).2).2) := by
  induction xs with
  | nil =>
    intro σ
    rw [List.nil_append, warmAll, Nat.zero_add]
  | cons x xs ih =>
    intro σ
    rw [List.cons_append, warmAll, warmAll]
    by_cases hx : x.isCompiled σ
    · rw [if_pos hx, if_pos hx, ih]
    · rw [if_neg hx, if_neg hx]
      dsimp only
      rw [ih, Nat.add_right_comm]

/-- A pass over compiled schemas does nothing. -/
theorem warmAll_of_compiled {schemas : List Schema} {σ : Store}
    (h : ∀ s ∈ schemas, s.isCompiled σ) : warmAll schemas σ = (0, σ) := by
  induction schemas with
  | nil => rfl
  | cons first rest ih =>
    obtain ⟨hfirst, hrest⟩ := List.forall_mem_cons.mp h
    rw [warmAll, if_pos hfirst, ih hrest]

namespace Store

variable {owner : Ownership} {σ σ₁ σ₂ : Store}

/-- What the slots of a coherent store hold is known from which of them hold something. -/
theorem Coherent.routine?_eq (h : σ.Coherent owner) (k : Slot) :
    σ.routine? k = if σ.populated k then some (owner k).interpret else none := by
  cases hr : σ.routine? k with
  | none => simp [populated_eq_isSome, hr]
  | some routine => simp [populated_eq_isSome, hr, h.agrees k routine hr]

/-- Stretches of compilation that start at the same store and have the same targets leave the same
    routines. -/
theorem Compiled.caches_eq {xs ys : List Schema} {early late : List StoreEvent}
    (h₁ : Compiled owner σ xs early σ₁) (h₂ : Compiled owner σ ys late σ₂)
    (hmem : ∀ n, n ∈ xs ↔ n ∈ ys) : σ₁.caches = σ₂.caches := by
  have hpopulated : ∀ k, σ₁.populated k = σ₂.populated k := by
    intro k
    rw [Bool.eq_iff_iff, h₁.populated_iff, h₂.populated_iff]
    simp only [hmem]
  have hroutine : ∀ k, σ₁.routine? k = σ₂.routine? k := by
    intro k
    rw [h₁.coherent.routine?_eq, h₂.coherent.routine?_eq, hpopulated]
  funext k
  exact congrArg Cache.mk (hroutine k)

/-- A pass leaves all its schemas compiled. -/
theorem isCompiled_warmAll {schemas : List Schema} (h : σ.Coherent owner)
    (hs : ∀ s ∈ schemas, s.Placed owner σ.next) :
    ∀ s ∈ schemas, s.isCompiled (warmAll schemas σ).2 := by
  intro s hmem
  obtain ⟨_, hcompiled⟩ := warmAll_compiled schemas σ h hs
  refine (hcompiled.populated_iff s.slot).mpr (.inr ⟨s.node, ?_, s.slot_node⟩)
  exact List.mem_flatMap.mpr ⟨s, hmem, s.node_mem_nodes⟩

end Store

open Store

/-- Warming with the names in some order is the pass over the schemas in this order. -/
theorem Registry.warm_eq_warmAll {owner : Ownership} {σ : Store} {r : Registry}
    {order : List (String × Schema)} (hr : r.Distinct) (horder : order.Perm r.entries)
    (h : σ.Coherent owner) (hplaced : ∀ s ∈ r.entries.map Prod.snd, s.Placed owner σ.next) :
    r.warm (order.map Prod.fst) σ = warmAll (order.map Prod.snd) σ := by
  have hmem : ∀ s, s ∈ order.map Prod.snd ↔ s ∈ r.entries.map Prod.snd :=
    fun s => (horder.map Prod.snd).mem_iff
  -- the pass over the remaining entries finds all of them compiled
  have hrest : warmAll (r.entries.map Prod.snd) (warmAll (order.map Prod.snd) σ).2 =
      (0, (warmAll (order.map Prod.snd) σ).2) := by
    refine warmAll_of_compiled fun s hs => ?_
    exact isCompiled_warmAll h (fun s hs => hplaced s ((hmem s).mp hs)) s ((hmem s).mpr hs)
  rw [warm, hr.filterMap_get? order fun e he => horder.mem_iff.mp he, warmAll_append, hrest,
    Nat.add_zero]

namespace Session

/-- The session after a pass over the entries of its registry in some order. -/
def warmed (s : Session) (order : List (String × Schema)) : Session :=
  { s with store := (warmAll (order.map Prod.snd) s.store).2 }

/-- What warming comes to when the entries of the registry are enumerated in some order. -/
structure WarmSettles (dialect : PatternDialect) (s : Session) (order : List (String × Schema)) :
    Prop where
  /-- Warming is a pass over the entries. It changes the store and nothing else. -/
  step_eq : s.step dialect (.warm (order.map Prod.fst)) =
    (s.warmed order, .warmed (warmAll (order.map Prod.snd) s.store).1)
  /-- It adds all registered nodes and their descendants to what is compiled. -/
  adds : s.Adds ((s.registry.entries.map Prod.snd).flatMap Schema.nodes) (s.warmed order).store
  /-- After every other order all slots hold the same. -/
  caches_eq : ∀ other : List (String × Schema), other.Perm s.registry.entries →
    (s.warmed other).store.caches = (s.warmed order).store.caches
  /-- No later reply changes but for what it tells about caches, so no outcome does. -/
  later : ∀ steps, ((s.warmed order).run dialect steps).2.map Reply.withoutFlags =
    (s.run dialect steps).2.map Reply.withoutFlags
  /-- Warming again in any order compiles nothing and changes nothing. -/
  again : ∀ other : List (String × Schema), other.Perm s.registry.entries →
    (s.warmed order).step dialect (.warm (other.map Prod.fst)) = (s.warmed order, .warmed 0)

variable {owner : Ownership} {s : Session} {order : List (String × Schema)}

theorem Sound.placed_of_perm (h : s.Sound owner) (horder : order.Perm s.registry.entries) :
    ∀ schema ∈ order.map Prod.snd, schema.Placed owner s.store.next := fun schema hmem =>
  h.placed_registered schema ((horder.map Prod.snd).mem_iff.mp hmem)

/-- A warming is a pass over the entries. -/
theorem Sound.step_warm (h : s.Sound owner) (hr : s.registry.Distinct) (dialect : PatternDialect)
    (horder : order.Perm s.registry.entries) :
    s.step dialect (.warm (order.map Prod.fst)) =
      (s.warmed order, .warmed (warmAll (order.map Prod.snd) s.store).1) := by
  rw [Session.step, Registry.warm_eq_warmAll hr horder h.coherent h.placed_registered]
  rfl

/-- A pass compiles the registered nodes and their descendants, in whatever order it goes. -/
theorem Sound.warmed_compiled (h : s.Sound owner) (horder : order.Perm s.registry.entries) :
    ∃ events, Compiled owner s.store ((s.registry.entries.map Prod.snd).flatMap Schema.nodes) events
      (s.warmed order).store := by
  obtain ⟨events, hcompiled⟩ := warmAll_compiled _ s.store h.coherent (h.placed_of_perm horder)
  refine ⟨events, hcompiled.congr_targets fun n => ?_⟩
  simp only [List.mem_flatMap, (horder.map Prod.snd).mem_iff]

/-- After a pass another one finds nothing to compile, in whatever order it goes. -/
theorem Sound.warmAll_warmed (h : s.Sound owner) (horder : order.Perm s.registry.entries)
    {other : List (String × Schema)} (hother : other.Perm s.registry.entries) :
    warmAll (other.map Prod.snd) (s.warmed order).store = (0, (s.warmed order).store) := by
  refine warmAll_of_compiled fun schema hschema => ?_
  refine isCompiled_warmAll h.coherent (h.placed_of_perm horder) schema ?_
  exact ((hother.trans horder.symm).map Prod.snd).mem_iff.mp hschema

theorem Sound.warmSettles (h : s.Sound owner) (hr : s.registry.Distinct) (dialect : PatternDialect)
    (horder : order.Perm s.registry.entries) : WarmSettles dialect s order := by
  obtain ⟨events, hcompiled⟩ := h.warmed_compiled horder
  obtain ⟨owner', _, -, (hsound : (s.warmed order).Sound owner')⟩ := h.compiled hcompiled
  refine
    { step_eq := h.step_warm hr dialect horder
      adds := h.adds hcompiled.advances.populated_iff fun n hn => ?_
      caches_eq := fun other hother => ?_
      later := fun steps => run_alike dialect steps (Alike.of_compiled hcompiled).symm hsound h
      again := fun other hother => ?_ }
  · obtain ⟨root, hroot, hn⟩ := List.mem_flatMap.mp hn
    exact mem_nodes_of_mem_roots (List.mem_append_right _ hroot) hn
  · obtain ⟨_, hcompiled'⟩ := h.warmed_compiled hother
    exact hcompiled'.caches_eq hcompiled fun n => Iff.rfl
  · have hnone := h.warmAll_warmed horder hother
    have hsame : (s.warmed order).warmed other = s.warmed order :=
      congrArg (fun result => { s with store := result.2 }) hnone
    rw [hsound.step_warm hr dialect hother, hsame, hnone]

/-- **Warming.** At every state that can be reached, and in whatever order the entries of the registry
    are enumerated. -/
theorem warm_settles (dialect : PatternDialect) (steps : List Step) (order : List (String × Schema))
    (horder : order.Perm (reached dialect steps).registry.entries) :
    WarmSettles dialect (reached dialect steps) order := by
  obtain ⟨owner, h⟩ := reached_sound dialect steps
  exact h.warmSettles (distinct_reached dialect steps) dialect horder

/-- A list of words and an object that has it as a field, both registered. -/
def registeredRun : List Step :=
  [.register "words" (.array (.string (some 1) none none) {}),
    .register "page" (.field (.object []) "words" (.registered "words"))]

/-- The object is compiled first and with it the list, so that the list is skipped. -/
theorem warm_settles_words : ∃ order,
    order.Perm (reached noPatterns registeredRun).registry.entries ∧
    order.map Prod.fst = ["page", "words"] ∧
    (warmAll (order.map Prod.snd) (reached noPatterns registeredRun).store).1 = 1 ∧
    WarmSettles noPatterns (reached noPatterns registeredRun) order :=
  have horder := List.reverse_perm (reached noPatterns registeredRun).registry.entries
  ⟨_, horder, rfl, rfl, warm_settles noPatterns registeredRun _ horder⟩

end Session

end JsonValidation
