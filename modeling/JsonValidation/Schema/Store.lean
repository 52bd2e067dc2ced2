import JsonValidation.Cache.Basic
import JsonValidation.Schema.Basic

/-!
# The store of compiled routines

The store gives every slot its cache and hands out slots that were never used. It also keeps the
history of its builds: when the building of a slot's routine began and when the slot was filled.

* `Store.getOrBuild`: the routine of a slot, built now if the slot is empty.
* `Store.fresh`, `Store.copy`: a new slot, empty or with what another slot holds.
* `populated_fill`, `populated_copy` and the like: what an operation does to the populated slots.
-/

namespace JsonValidation

/-- A moment in the history of a store. -/
inductive StoreEvent where
  /-- The building of the routine of a slot began. -/
  | began (slot : Slot)
  /-- A slot was filled. -/
  | filled (slot : Slot)
deriving DecidableEq

/-- The caches of all slots. -/
structure Store where
  /-- The next slot to hand out; it and all slots after it are unused. -/
  next : Slot := 0
  caches : Slot → Cache Routine := fun _ => {}
  /-- What happened so far, the latest first. -/
  history : List StoreEvent := []

namespace Store

/-- The routine that a slot holds. -/
def routine? (σ : Store) (slot : Slot) : Option Routine := (σ.caches slot).held

/-- Whether a slot holds a routine. -/
def populated (σ : Store) (slot : Slot) : Bool := (σ.caches slot).populated

/-- Notes an event. -/
def record (σ : Store) (event : StoreEvent) : Store := { σ with history := event :: σ.history }

/-- Gives a slot a cache. -/
def setCache (σ : Store) (slot : Slot) (cache : Cache Routine) : Store :=
  { σ with caches := fun other => if other = slot then cache else σ.caches other }

/-- Fills a slot with a routine. -/
def fill (σ : Store) (slot : Slot) (routine : Routine) : Store :=
  (σ.setCache slot ⟨some routine⟩).record (.filled slot)

/-- The routine of a slot (`RoutineCache::get_or_build`). If the slot is empty the routine is built,
    which may fill other slots, and then kept. -/
def getOrBuild (σ : Store) (slot : Slot) (build : Store → Routine × Store) : Routine × Store :=
  match σ.routine? slot with
  | some routine => (routine, σ)
  | none =>
    let (routine, σ) := build (σ.record (.began slot))
    (routine, σ.fill slot routine)

/-- A new slot, which is empty. -/
def fresh (σ : Store) : Slot × Store := (σ.next, { σ with next := σ.next + 1 })

/-- A new slot that holds what another slot holds (`RoutineCache::clone`). -/
def copy (σ : Store) (slot : Slot) : Slot × Store :=
  let (new, σ') := σ.fresh
  (new, σ'.setCache new (σ.caches slot).copy)

/-! ## What the operations change -/

@[simp] theorem caches_record (σ : Store) (event : StoreEvent) :
    (σ.record event).caches = σ.caches := rfl

@[simp] theorem next_record (σ : Store) (event : StoreEvent) : (σ.record event).next = σ.next := rfl

@[simp] theorem history_record (σ : Store) (event : StoreEvent) :
    (σ.record event).history = event :: σ.history := rfl

@[simp] theorem populated_record (σ : Store) (event : StoreEvent) (slot : Slot) :
    (σ.record event).populated slot = σ.populated slot := rfl

@[simp] theorem routine?_record (σ : Store) (event : StoreEvent) (slot : Slot) :
    (σ.record event).routine? slot = σ.routine? slot := rfl

@[simp] theorem next_fill (σ : Store) (slot : Slot) (routine : Routine) :
    (σ.fill slot routine).next = σ.next := rfl

@[simp] theorem history_fill (σ : Store) (slot : Slot) (routine : Routine) :
    (σ.fill slot routine).history = .filled slot :: σ.history := rfl

theorem routine?_fill (σ : Store) (slot : Slot) (routine : Routine) (other : Slot) :
    (σ.fill slot routine).routine? other =
      if other = slot then some routine else σ.routine? other := by
  unfold routine? fill record setCache
  dsimp only
  split <;> rfl

theorem populated_eq_isSome (σ : Store) (slot : Slot) :
    σ.populated slot = (σ.routine? slot).isSome := rfl

theorem populated_fill (σ : Store) (slot : Slot) (routine : Routine) (other : Slot) :
    (σ.fill slot routine).populated other = (decide (other = slot) || σ.populated other) := by
  rw [populated_eq_isSome, populated_eq_isSome, routine?_fill]
  split <;> simp [*]

@[simp] theorem next_copy (σ : Store) (slot : Slot) : (σ.copy slot).2.next = σ.next + 1 := rfl

@[simp] theorem history_copy (σ : Store) (slot : Slot) :
    (σ.copy slot).2.history = σ.history := rfl

theorem caches_copy (σ : Store) (slot other : Slot) :
    (σ.copy slot).2.caches other = if other = σ.next then σ.caches slot else σ.caches other := rfl

end Store

end JsonValidation
