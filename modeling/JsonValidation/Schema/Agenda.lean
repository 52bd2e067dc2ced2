import JsonValidation.Schema.Store

/-!
# Agendas

What compiling (`SchemaLike::compile`) does to the slots, with the routines left out. A heap says of
every slot which slots its routine is made from. The slots of a heap may be shared, and nothing in its
type keeps a slot from being made from itself. An agenda is worked off turn by turn: asking an empty
slot begins its build, which asks the slots that the routine is made from and then fills the slot.

A slot whose build is under way cannot be asked, as the build would have to wait for its own end. Such
an agenda has no next turn although there is something left to do.

* `Agenda.turn?`, `Agenda.turns?`: one turn, and a number of turns.
* `Agenda.Deadlocked`: something is left to do and there is no next turn.
-/

namespace JsonValidation

/-- Which slots the routine of a slot is made from, in the order in which they are asked. -/
abbrev Heap := Slot → List Slot

/-- Something left to do. -/
inductive Task where
  /-- Ask a slot for its routine. -/
  | ask (slot : Slot)
  /-- End the build of a slot, which fills it. -/
  | fill (slot : Slot)
deriving DecidableEq

/-- The slot of an event that begins a build. -/
def StoreEvent.begun? : StoreEvent → Option Slot
  | .began slot => some slot
  | .filled _ => none

/-- The slots whose builds began in a history, the latest first. -/
def begun (history : List StoreEvent) : List Slot := history.filterMap StoreEvent.begun?

/-- The slot of a task that ends a build. -/
def Task.ended? : Task → Option Slot
  | .ask _ => none
  | .fill slot => some slot

/-- The slots whose builds are under way while some tasks are left to do, the latest first. -/
def underWay (tasks : List Task) : List Slot := tasks.filterMap Task.ended?

/-- What is left to do, and what happened so far. -/
structure Agenda where
  tasks : List Task
  filled : Slot → Bool
  /-- What happened so far, the latest first. -/
  history : List StoreEvent

namespace Agenda

/-- The next turn; nothing if all is done, or if the slot to ask is empty and its build is under
    way. -/
def turn? (heap : Heap) (a : Agenda) : Option Agenda :=
  match a.tasks with
  | [] => none
  | .ask slot :: rest =>
    if a.filled slot then some { a with tasks := rest }
    else if slot ∈ underWay rest then none
    else
      some
        { tasks := (heap slot).map .ask ++ .fill slot :: rest
          filled := a.filled
          history := .began slot :: a.history }
  | .fill slot :: rest =>
    some
      { tasks := rest
        filled := fun other => decide (other = slot) || a.filled other
        history := .filled slot :: a.history }

/-- A number of turns; nothing if there are not so many. -/
def turns? (heap : Heap) : Nat → Agenda → Option Agenda
  | 0, a => some a
  | n + 1, a => (a.turn? heap).bind (turns? heap n)

/-- Something is left to do and there is no next turn. -/
def Deadlocked (heap : Heap) (a : Agenda) : Prop := a.tasks ≠ [] ∧ a.turn? heap = none

end Agenda

/-- A store with something left to do. -/
def Store.agenda (σ : Store) (tasks : List Task) : Agenda := ⟨tasks, σ.populated, σ.history⟩

@[simp] theorem begun_nil : begun [] = [] := rfl

@[simp] theorem begun_began (slot : Slot) (history : List StoreEvent) :
    begun (.began slot :: history) = slot :: begun history := rfl

@[simp] theorem begun_filled (slot : Slot) (history : List StoreEvent) :
    begun (.filled slot :: history) = begun history := rfl

theorem begun_append (late early : List StoreEvent) :
    begun (late ++ early) = begun late ++ begun early := List.filterMap_append

theorem mem_begun {slot : Slot} {history : List StoreEvent} :
    slot ∈ begun history ↔ .began slot ∈ history := by
  induction history with
  | nil => simp
  | cons event history ih => cases event <;> simp [ih]

theorem count_begun (slot : Slot) (history : List StoreEvent) :
    (begun history).count slot = history.count (.began slot) := by
  induction history with
  | nil => rfl
  | cons event history ih => cases event <;> simp [List.count_cons, ih]

@[simp] theorem underWay_nil : underWay [] = [] := rfl

@[simp] theorem underWay_ask (slot : Slot) (rest : List Task) :
    underWay (.ask slot :: rest) = underWay rest := rfl

@[simp] theorem underWay_fill (slot : Slot) (rest : List Task) :
    underWay (.fill slot :: rest) = slot :: underWay rest := rfl

@[simp] theorem underWay_asks (slots : List Slot) (rest : List Task) :
    underWay (slots.map .ask ++ rest) = underWay rest := by
  induction slots with
  | nil => rfl
  | cons slot slots ih => exact ih

/-- A slot that is made from itself: its build asks for it again and waits for ever. -/
example : ∃ a, Agenda.turns? (fun _ => [0]) 1 ⟨[.ask 0], fun _ => false, []⟩ = some a ∧
    a.Deadlocked fun _ => [0] := ⟨_, rfl, by simp, rfl⟩

end JsonValidation
