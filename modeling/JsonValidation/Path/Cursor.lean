import JsonValidation.Path.Basic

/-!
# Moving along paths

A cursor holds a current and a saved path, both the root at first. Each move sets one of them.

* `Cursor.move`: one move, and whether it was possible; only the root has no parent to move to.
* `Cursor.moves`: where a list of moves leads, with every stop on the way.
-/

namespace JsonValidation

/-- A current and a saved path. -/
structure Cursor where
  path : Path := .root
  saved : Path := .root

namespace Cursor

/-- A way to set the current or the saved path. -/
inductive Move where
  | root
  | ofField (name : String)
  | ofIndex (position : Nat)
  | ofNames (names : List String)
  | pushField (name : String)
  | pushIndex (position : Nat)
  | parent
  | save
  | load

/-- Makes a move. The second component is false when the current path has no parent; it stays where it
    is then. -/
def move (c : Cursor) : Move → Cursor × Bool
  | .root => ({ c with path := .root }, true)
  | .ofField name => ({ c with path := .ofField name }, true)
  | .ofIndex position => ({ c with path := .ofIndex position }, true)
  | .ofNames names => ({ c with path := .ofNames names }, true)
  | .pushField name => ({ c with path := c.path.pushField name }, true)
  | .pushIndex position => ({ c with path := c.path.pushIndex position }, true)
  | .parent =>
    match c.path.parent? with
    | some parent => ({ c with path := parent }, true)
    | none => (c, false)
  | .save => ({ c with saved := c.path }, true)
  | .load => ({ c with path := c.saved }, true)

/-- The cursor after each of a list of moves, with the move's success. -/
def moves (c : Cursor) : List Move → List (Cursor × Bool)
  | [] => []
  | m :: rest =>
    let stop := c.move m
    stop :: moves stop.1 rest

end Cursor

end JsonValidation
