import JsonValidation.Session.Basic

/-!
# Handles of registries

A registry is reached through handles. A clone of a handle is another handle to the same map, so what
is registered through one of them is found through all of them. A workspace has any number of
registries, but one store: a schema can be in several registries and in none.

* `Handle.clone`: another handle to the same map.
* `Workspace.act`: one action and its reply. Each call takes effect as a whole.
* `Workspace.run`: a list of actions, which is some interleaving of what is done with the handles.
-/

namespace JsonValidation

/-- A handle of a registry: the place of its map. -/
structure Handle where
  place : Nat
deriving DecidableEq

/-- Another handle to the same map (`SchemaRegistry::clone`). -/
def Handle.clone (h : Handle) : Handle := ⟨h.place⟩

/-- Registries with their handles, and the schemas that they may share. -/
structure Workspace where
  store : Store := {}
  /-- The named schemas. -/
  schemas : List (String × Schema) := []
  /-- The next place of a map; it and all places after it are unused. -/
  next : Nat := 0
  maps : Nat → Registry := fun _ => {}
  /-- The handles, in the order in which they were made. -/
  handles : List Handle := []

namespace Workspace

/-- What can be done in a workspace. -/
inductive Action where
  /-- Makes a registry, which is empty, and a handle of it. -/
  | create
  /-- Clones the handle with a number. -/
  | clone (handle : Nat)
  /-- Makes a step on the registry of the handle with a number. -/
  | call (handle : Nat) (step : Session.Step)

/-- The workspace as it is seen through a handle. -/
def session (w : Workspace) (h : Handle) : Session where
  store := w.store
  schemas := w.schemas
  registry := w.maps h.place

/-- The workspace when a session that was seen through a handle has changed. -/
def update (w : Workspace) (h : Handle) (s : Session) : Workspace :=
  { w with
    store := s.store
    schemas := s.schemas
    maps := fun place => if place = h.place then s.registry else w.maps place }

/-- Does one thing. There is a reply to a call through a handle that exists. -/
def act (dialect : PatternDialect) (w : Workspace) : Action → Workspace × Option Session.Reply
  | .create => ({ w with next := w.next + 1, handles := w.handles ++ [⟨w.next⟩] }, none)
  | .clone handle =>
    match w.handles[handle]? with
    | some h => ({ w with handles := w.handles ++ [h.clone] }, none)
    | none => (w, none)
  | .call handle step =>
    match w.handles[handle]? with
    | some h =>
      let (s, reply) := (w.session h).step dialect step
      (w.update h s, some reply)
    | none => (w, none)

/-- Does one thing after the other, with the replies in their order. -/
def run (dialect : PatternDialect) (w : Workspace) :
    List Action → Workspace × List (Option Session.Reply)
  | [] => (w, [])
  | first :: rest =>
    let (w, reply) := w.act dialect first
    let (w, replies) := w.run dialect rest
    (w, reply :: replies)

end Workspace

end JsonValidation
