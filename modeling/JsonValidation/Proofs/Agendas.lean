import JsonValidation.Proofs.Compilation
import JsonValidation.Schema.Agenda

/-!
# Compiling as an agenda

What an agenda does to its slots is the same for all heaps: no build begins twice, and as many turns
are made as there are slots to ask and to fill. On the heap of placed schemas, where slots decrease on
the way down, no build ever waits for itself, so the agenda of a compilation comes to its end, which is
the store that the compilation leaves.

* `Agenda.not_deadlocked`: an agenda that comes to its end does not stop on the way.
* `Agenda.Orderly`, `Orderly.turns`: no build begins twice, whatever the heap.
* `Agenda.length_turns`: how many turns are made.
* `Agenda.Grows`, `grows_turns`: which slots are filled.
* `Schema.compileAll`, `store_assemble`: assembling a node compiles its children one by one.
* `Schema.turns_ask`, `turns_asks`: compiling placed schemas is working off an agenda.
-/

namespace JsonValidation

namespace Agenda

variable {heap : Heap} {a b c : Agenda} {m n : Nat}

/-- A turn asks a full slot, begins a build, or ends one. -/
theorem turn?_cases (h : a.turn? heap = some b) :
    (∃ slot rest, a.tasks = .ask slot :: rest ∧ a.filled slot ∧ b = { a with tasks := rest }) ∨
    (∃ slot rest, a.tasks = .ask slot :: rest ∧ a.filled slot = false ∧ slot ∉ underWay rest ∧
      b = ⟨(heap slot).map .ask ++ .fill slot :: rest, a.filled, .began slot :: a.history⟩) ∨
    ∃ slot rest, a.tasks = .fill slot :: rest ∧
      b = ⟨rest, fun other => decide (other = slot) || a.filled other, .filled slot :: a.history⟩ := by
  unfold turn? at h
  split at h
  · cases h
  · rename_i slot rest htasks
    split at h
    · rename_i hfilled
      exact .inl ⟨slot, rest, htasks, hfilled, (Option.some.inj h).symm⟩
    · rename_i hempty
      split at h
      · cases h
      · rename_i hfree
        exact .inr (.inl ⟨slot, rest, htasks, by simpa using hempty, hfree, (Option.some.inj h).symm⟩)
  · rename_i slot rest htasks
    exact .inr (.inr ⟨slot, rest, htasks, (Option.some.inj h).symm⟩)

theorem turns?_succ (h : turns? heap (n + 1) a = some c) :
    ∃ b, a.turn? heap = some b ∧ turns? heap n b = some c := Option.bind_eq_some_iff.mp h

/-- Turns after turns. -/
theorem turns?_add (h : turns? heap m a = some b) (h' : turns? heap n b = some c) :
    turns? heap (m + n) a = some c := by
  induction m generalizing a with
  | zero =>
    obtain rfl := Option.some.inj h
    rwa [Nat.zero_add]
  | succ m ih =>
    obtain ⟨a', hfirst, hrest⟩ := turns?_succ h
    rw [Nat.add_right_comm, turns?, hfirst]
    exact ih hrest

theorem turn?_of_done (h : a.tasks = []) : a.turn? heap = none := by
  unfold turn?
  rw [h]

/-- On the way to an end there is no deadlock. -/
theorem not_deadlocked (h : turns? heap n a = some b) (hdone : b.tasks = [])
    (hturns : turns? heap m a = some c) : ¬c.Deadlocked heap := by
  rintro ⟨htasks, hstuck⟩
  induction n generalizing a m with
  | zero =>
    obtain rfl := Option.some.inj h
    cases m with
    | zero =>
      obtain rfl := Option.some.inj hturns
      exact htasks hdone
    | succ m =>
      obtain ⟨a', hfirst, -⟩ := turns?_succ hturns
      cases (turn?_of_done hdone).symm.trans hfirst
  | succ n ih =>
    obtain ⟨a', hfirst, hrest⟩ := turns?_succ h
    cases m with
    | zero =>
      obtain rfl := Option.some.inj hturns
      cases hstuck.symm.trans hfirst
    | succ m =>
      obtain ⟨a'', hfirst', hrest'⟩ := turns?_succ hturns
      obtain rfl := Option.some.inj (hfirst.symm.trans hfirst')
      exact ih hrest hrest'

/-! ## No build begins twice -/

/-- Every slot whose build began has been filled, or its build is under way and it is empty; and no
    build began twice. -/
structure Orderly (a : Agenda) : Prop where
  once : (begun a.history).Nodup
  underWay_once : (underWay a.tasks).Nodup
  empty : ∀ slot ∈ underWay a.tasks, a.filled slot = false
  settled : ∀ slot ∈ begun a.history, a.filled slot ∨ slot ∈ underWay a.tasks

theorem Orderly.turn (h : a.Orderly) (hturn : a.turn? heap = some b) : b.Orderly := by
  obtain ⟨honce, hunder, hempty, hsettled⟩ := h
  rcases turn?_cases hturn with ⟨slot, rest, htasks, -, rfl⟩ | ⟨slot, rest, htasks, hslot, hfree, rfl⟩ |
    ⟨slot, rest, htasks, rfl⟩
  · rw [htasks, underWay_ask] at hunder hempty hsettled
    exact ⟨honce, hunder, hempty, hsettled⟩
  · rw [htasks, underWay_ask] at hunder hempty hsettled
    refine ⟨?_, ?_, ?_, ?_⟩
    · -- an empty slot whose build is not under way was never begun
      refine List.nodup_cons.mpr ⟨fun hbegun => ?_, honce⟩
      rcases hsettled slot hbegun with hfilled | hmem
      · rw [hslot] at hfilled
        cases hfilled
      · exact hfree hmem
    · rw [underWay_asks, underWay_fill]
      exact List.nodup_cons.mpr ⟨hfree, hunder⟩
    · rw [underWay_asks, underWay_fill]
      exact List.forall_mem_cons.mpr ⟨hslot, hempty⟩
    · rw [underWay_asks, underWay_fill, begun_began]
      refine List.forall_mem_cons.mpr ⟨.inr List.mem_cons_self, fun other hother => ?_⟩
      exact (hsettled other hother).imp_right (List.mem_cons_of_mem _)
  · rw [htasks, underWay_fill] at hunder hempty hsettled
    obtain ⟨hslot, hrest⟩ := List.nodup_cons.mp hunder
    refine ⟨honce, hrest, fun other hother => ?_, fun other hother => ?_⟩
    · have hne : other ≠ slot := by
        rintro rfl
        exact hslot hother
      simpa [hne] using hempty other (List.mem_cons_of_mem _ hother)
    · rcases hsettled other hother with hfilled | hmem
      · exact .inl (by simp [hfilled])
      · rcases List.mem_cons.mp hmem with rfl | hmem
        · exact .inl (by simp)
        · exact .inr hmem

theorem Orderly.turns (h : a.Orderly) (hturns : turns? heap n a = some b) : b.Orderly := by
  induction n generalizing a with
  | zero =>
    obtain rfl := Option.some.inj hturns
    exact h
  | succ n ih =>
    obtain ⟨a', hfirst, hrest⟩ := turns?_succ hturns
    exact ih (h.turn hfirst) hrest

/-! ## How many turns are made -/

/-- The turns that some builds take: those that ask for what the slots are made from, and those that
    fill them. -/
def buildTurns (heap : Heap) (slots : List Slot) : Nat :=
  (slots.flatMap heap).length + slots.length

theorem length_turn (h : a.turn? heap = some b) :
    b.tasks.length + 1 + buildTurns heap (begun a.history) =
      a.tasks.length + buildTurns heap (begun b.history) := by
  rcases turn?_cases h with ⟨slot, rest, htasks, -, rfl⟩ | ⟨slot, rest, htasks, -, -, rfl⟩ |
    ⟨slot, rest, htasks, rfl⟩
  · simp [htasks]
  · simp only [htasks, begun_began, buildTurns, List.length_append, List.length_map,
      List.length_cons, List.flatMap_cons]
    omega
  · simp [htasks]

/-- Every turn asks a slot or ends a build, so the number of turns is known from what was left to do
    and from the builds that began. -/
theorem length_turns (h : turns? heap n a = some b) :
    b.tasks.length + n + buildTurns heap (begun a.history) =
      a.tasks.length + buildTurns heap (begun b.history) := by
  induction n generalizing a with
  | zero =>
    obtain rfl := Option.some.inj h
    rfl
  | succ n ih =>
    obtain ⟨a', hfirst, hrest⟩ := turns?_succ h
    have hstep := length_turn hfirst
    have hlater := ih hrest
    omega

/-! ## Which slots are filled -/

/-- Whether a slot is full or will be when its build ends. -/
def Claims (a : Agenda) (slot : Slot) : Prop := a.filled slot ∨ slot ∈ underWay a.tasks

/-- A later agenda: the builds of some slots began, none of which was full or under way. -/
def Grows (a b : Agenda) : Prop :=
  ∃ events, b.history = events ++ a.history ∧
    (∀ slot, b.Claims slot ↔ a.Claims slot ∨ slot ∈ begun events) ∧
    ∀ slot ∈ begun events, ¬a.Claims slot

theorem grows_turn (h : a.turn? heap = some b) : a.Grows b := by
  rcases turn?_cases h with ⟨slot, rest, htasks, -, rfl⟩ | ⟨slot, rest, htasks, hslot, hfree, rfl⟩ |
    ⟨slot, rest, htasks, rfl⟩
  · exact ⟨[], rfl, by simp [Claims, htasks], by simp⟩
  · refine ⟨[.began slot], rfl, fun other => ?_, fun other hother => ?_⟩
    · simp only [Claims, htasks, underWay_asks, underWay_fill, underWay_ask, List.mem_cons,
        begun_began, begun_nil, List.not_mem_nil, or_false]
      rw [or_assoc, or_comm (a := other = slot)]
    · obtain rfl := List.mem_singleton.mp hother
      simp [Claims, htasks, hslot, hfree]
  · refine ⟨[.filled slot], rfl, fun other => ?_, by simp⟩
    by_cases hother : other = slot <;> simp [Claims, htasks, hother]

theorem Grows.trans (h : a.Grows b) (h' : b.Grows c) : a.Grows c := by
  obtain ⟨early, hearly, hclaims, hnew⟩ := h
  obtain ⟨late, hlate, hclaims', hnew'⟩ := h'
  refine ⟨late ++ early, by rw [hlate, hearly, List.append_assoc], fun slot => ?_, fun slot hslot => ?_⟩
  · rw [hclaims', hclaims, begun_append, List.mem_append, or_assoc, or_comm (a := slot ∈ begun early)]
  · rw [begun_append] at hslot
    rcases List.mem_append.mp hslot with hslot | hslot
    · exact fun ha => hnew' slot hslot ((hclaims slot).mpr (.inl ha))
    · exact hnew slot hslot

theorem grows_turns (h : turns? heap n a = some b) : a.Grows b := by
  induction n generalizing a with
  | zero =>
    obtain rfl := Option.some.inj h
    exact ⟨[], rfl, by simp, by simp⟩
  | succ n ih =>
    obtain ⟨a', hfirst, hrest⟩ := turns?_succ h
    exact (grows_turn hfirst).trans (ih hrest)

end Agenda

/-! ## Compiling, child by child -/

namespace Schema

/-- The store after compiling schemas one after the other. -/
def compileAll (schemas : List Schema) (σ : Store) : Store :=
  schemas.foldl (fun σ s => (s.compile σ).2) σ

theorem compile_of_populated {s : Schema} {σ : Store} (h : σ.populated s.slot) :
    (s.compile σ).2 = σ := by
  obtain ⟨routine, hroutine⟩ := Store.populated_iff.mp h
  rw [compile, Store.getOrBuild, hroutine]

theorem compile_of_empty {s : Schema} {σ : Store} (h : σ.populated s.slot = false) :
    (s.compile σ).2 =
      (s.assemble (σ.record (.began s.slot))).2.fill s.slot
        (s.assemble (σ.record (.began s.slot))).1 := by
  have hroutine : σ.routine? s.slot = none := by
    rwa [Store.populated_eq_isSome, Option.isSome_eq_false_iff, Option.isNone_iff_eq_none] at h
  rw [compile, Store.getOrBuild, hroutine]

theorem store_compileFields (fields : List (String × Schema)) :
    ∀ σ : Store, (compileFields fields σ).2 = compileAll (fields.map Prod.snd) σ := by
  induction fields with
  | nil => exact fun _ => rfl
  | cons field rest ih => exact fun σ => ih (field.2.compile σ).2

theorem store_compileAlternatives (alternatives : List Schema) :
    ∀ σ : Store, (compileAlternatives alternatives σ).2 = compileAll alternatives σ := by
  induction alternatives with
  | nil => exact fun _ => rfl
  | cons schema rest ih => exact fun σ => ih (schema.compile σ).2

/-- Assembling a node compiles its children, in their order. -/
theorem store_assemble (s : Schema) (σ : Store) : (s.assemble σ).2 = compileAll s.children σ := by
  induction s with
  | object slot fields typeMessage => exact store_compileFields fields σ
  | union slot alternatives => exact store_compileAlternatives alternatives σ
  | shared access inner ih => exact ih
  | _ => rfl

end Schema

/-- The heap of the nodes that own the slots. -/
def Ownership.heap (owner : Ownership) : Heap := fun k => (owner k).children.map Schema.slot

namespace Schema

open Agenda

variable {owner : Ownership} {bound : Slot}

theorem Placed.heap_slot {s : Schema} (hs : s.Placed owner bound) :
    owner.heap s.slot = s.children.map slot := by
  rw [Ownership.heap, hs.owner_slot, children_node]

theorem Placed.child_slot_lt {s c : Schema} (hs : s.Placed owner bound) (hc : c ∈ s.children) :
    c.slot < s.slot := by
  simpa using hs.ordered s.node s.node_mem_nodes c (by simpa using hc)

/-- Compiling a placed schema is working off the agenda that asks its slot, if the builds under way are
    those of later slots. -/
def AsksInTurns (owner : Ownership) (s : Schema) : Prop :=
  ∀ (σ : Store) (rest : List Task), (∀ k ∈ underWay rest, s.slot < k) →
    ∃ n, turns? owner.heap n (σ.agenda (.ask s.slot :: rest)) = some ((s.compile σ).2.agenda rest)

/-- So is compiling schemas one after the other. -/
theorem turns_asks {schemas : List Schema} (h : ∀ s ∈ schemas, s.AsksInTurns owner) (σ : Store)
    (rest : List Task) (hrest : ∀ s ∈ schemas, ∀ k ∈ underWay rest, s.slot < k) :
    ∃ n, turns? owner.heap n (σ.agenda ((schemas.map slot).map .ask ++ rest)) =
      some ((compileAll schemas σ).agenda rest) := by
  induction schemas generalizing σ with
  | nil => exact ⟨0, rfl⟩
  | cons s schemas ih =>
    obtain ⟨hs, hschemas⟩ := List.forall_mem_cons.mp h
    obtain ⟨hslot, hslots⟩ := List.forall_mem_cons.mp hrest
    obtain ⟨m, hm⟩ := hs σ ((schemas.map slot).map .ask ++ rest) (by rwa [underWay_asks])
    obtain ⟨n, hn⟩ := ih hschemas (s.compile σ).2 hslots
    exact ⟨m + n, turns?_add hm hn⟩

/-- **Agendas.** Compiling a placed schema is working off an agenda, which comes to its end. -/
theorem turns_ask {s : Schema} (hs : s.Placed owner bound) : s.AsksInTurns owner := by
  induction s using child_induct with
  | step s ih =>
    intro σ rest hrest
    by_cases hp : σ.populated s.slot
    · refine ⟨1, ?_⟩
      rw [compile_of_populated hp]
      simp [turns?, turn?, Store.agenda, hp]
    · rw [Bool.not_eq_true] at hp
      -- the slot is not waited for, as the builds under way are those of later slots
      have hfree : s.slot ∉ underWay rest := fun hmem => Nat.lt_irrefl _ (hrest _ hmem)
      have hrecord : (σ.record (.began s.slot)).populated = σ.populated := rfl
      have hbegin : turns? owner.heap 1 (σ.agenda (.ask s.slot :: rest)) =
          some ((σ.record (.began s.slot)).agenda
            ((s.children.map slot).map .ask ++ .fill s.slot :: rest)) := by
        simp [turns?, turn?, Store.agenda, hp, hfree, hs.heap_slot, hrecord]
      have hbelow : ∀ c ∈ s.children, ∀ k ∈ underWay (.fill s.slot :: rest), c.slot < k := by
        intro c hc k hk
        have hlt := hs.child_slot_lt hc
        rw [underWay_fill] at hk
        rcases List.mem_cons.mp hk with rfl | hk
        · exact hlt
        · exact Nat.lt_trans hlt (hrest k hk)
      obtain ⟨n, hn⟩ := turns_asks (fun c hc => ih c hc (hs.child hc)) (σ.record (.began s.slot))
        (.fill s.slot :: rest) hbelow
      have hend : turns? owner.heap 1 ((compileAll s.children (σ.record (.began s.slot))).agenda
          (.fill s.slot :: rest)) = some ((s.compile σ).2.agenda rest) := by
        rw [compile_of_empty hp, store_assemble]
        simp only [turns?, turn?, Store.agenda, Option.bind_some, Option.some.injEq, Agenda.mk.injEq,
          true_and]
        refine ⟨funext fun other => ?_, rfl⟩
        rw [Store.populated_fill]
      exact ⟨1 + n + 1, turns?_add (turns?_add hbegin hn) hend⟩

end Schema

end JsonValidation
