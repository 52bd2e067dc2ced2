import JsonValidation.Text.Join

/-!
# Paths into a JSON value

A path names a place inside a value by the member names and array positions that lead to it from the
root. The name `"0"` and the position `0` are different steps that are written alike.

Names such as `JsonPath::push_field` in the docstrings, here and in the other modules, are those of the
functions and types that the definitions are models of.

* `Path.push`, `Path.parent?`, `Path.last?`: going one step down and back.
* `Path.render`: the steps joined by dots.
* `parent?_push`, `last?_push`, `ofNames_eq_foldl`: pushing is undone by taking the parent, and
  collecting names is pushing them one by one.
-/

namespace JsonValidation

/-- One step of a path (`PathSegment`). -/
inductive Segment where
  | field (name : String)
  | index (position : Nat)
deriving DecidableEq

/-- The text of a step. -/
def Segment.render : Segment → String
  | .field name => name
  | .index position => Nat.repr position

/-- A path, from the root down (`JsonPath`). -/
@[ext] structure Path where
  segments : List Segment
deriving DecidableEq

namespace Path

/-- The path to the whole value (`JsonPath::root`). -/
def root : Path := ⟨[]⟩

/-- One step further down. -/
def push (p : Path) (s : Segment) : Path := ⟨p.segments ++ [s]⟩

/-- Down into a member (`JsonPath::push_field`). -/
def pushField (p : Path) (name : String) : Path := p.push (.field name)

/-- Down into an item (`JsonPath::push_index`). -/
def pushIndex (p : Path) (position : Nat) : Path := p.push (.index position)

/-- The path to a member of the root (`JsonPath::from_field`). -/
def ofField (name : String) : Path := ⟨[.field name]⟩

/-- The path to an item of the root (`JsonPath::from_index`). -/
def ofIndex (position : Nat) : Path := ⟨[.index position]⟩

/-- The path through members with these names (`JsonPath::from_iter`). -/
def ofNames (names : List String) : Path := ⟨names.map .field⟩

/-- One path after another. -/
def append (p q : Path) : Path := ⟨p.segments ++ q.segments⟩

instance : Append Path := ⟨append⟩

/-- Whether the path is the root (`JsonPath::is_root`). -/
def isRoot (p : Path) : Bool := p.segments.isEmpty

/-- The number of steps (`JsonPath::len`). -/
def length (p : Path) : Nat := p.segments.length

/-- One step back up; the root has no parent (`JsonPath::parent`). -/
def parent? (p : Path) : Option Path :=
  if p.segments.isEmpty then none else some ⟨p.segments.dropLast⟩

/-- The last step; the root has none (`JsonPath::last`). -/
def last? (p : Path) : Option Segment := p.segments.getLast?

/-- The texts of the steps (`JsonPath::to_strings`). -/
def toStrings (p : Path) : List String := p.segments.map Segment.render

/-- The text of a path: its steps joined by dots (`JsonPath::fmt`). -/
def render (p : Path) : String := Text.join "." p.toStrings

/-! ## One step down and back -/

@[simp] theorem segments_root : root.segments = [] := rfl

@[simp] theorem segments_push (p : Path) (s : Segment) :
    (p.push s).segments = p.segments ++ [s] := rfl

@[simp] theorem segments_append (p q : Path) : (p ++ q).segments = p.segments ++ q.segments := rfl

theorem append_push (p q : Path) (s : Segment) : p ++ q.push s = (p ++ q).push s := by
  ext1; simp

theorem push_append (p r : Path) (s : Segment) : p.push s ++ r = p ++ ⟨s :: r.segments⟩ := by
  ext1; simp

theorem append_root (p : Path) : p ++ root = p := by ext1; simp

theorem eq_root_or_push (p : Path) : p = root ∨ ∃ q s, p = push q s := by
  obtain ⟨segments⟩ := p
  rcases List.eq_nil_or_concat segments with rfl | ⟨early, s, rfl⟩
  · exact .inl rfl
  · exact .inr ⟨⟨early⟩, s, by ext1; simp⟩

theorem parent?_push (p : Path) (s : Segment) : (p.push s).parent? = some p := by
  simp [parent?, push]

theorem last?_push (p : Path) (s : Segment) : (p.push s).last? = some s := by
  simp [last?, push]

theorem ofNames_eq_foldl (names : List String) : ofNames names = names.foldl pushField root := by
  suffices h : ∀ p : Path, names.foldl pushField p = ⟨p.segments ++ names.map .field⟩ by
    simp [h, ofNames]
  induction names with
  | nil => intro p; simp
  | cons name rest ih => intro p; simp [ih, pushField, push]

end Path

end JsonValidation
