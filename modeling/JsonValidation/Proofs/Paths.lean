import JsonValidation.Path.Cursor

/-!
# Laws of paths

A path is a list of segments that grows and shrinks at its end. How it was put together cannot be seen
any more: all moves that set a path are pushes from the root, and moves to the parent take back the
latest of them. The text of a path can be read back up to segments that are written alike, unless a name
has a dot in it or there are no segments at all.

* `Text.pieces`: a text cut at a separator. `pieces_join_eq_iff`: when cutting undoes joining.
* `Path.pieces_render_eq_iff`: when the text of a path can be cut into the texts of its segments.
* `Cursor.after`: where moves lead. `after_pushes`, `climbs`: all the way down, and up again.
* `Path.AsLists`, `paths_as_lists`: the laws.
-/

namespace JsonValidation

/-! ## Pieces of texts -/

namespace Text

variable {separator : Char} {s piece : String} {ss : List String}

/-- The pieces of a text between the occurrences of a separator. -/
def pieces (separator : Char) (s : String) : List String :=
  (s.split separator).toList.map String.Slice.copy

theorem pieces_eq_splitOn (separator : Char) (s : String) :
    pieces separator s = (s.toList.splitOn separator).map String.ofList :=
  String.toList_split_char

theorem pieces_of_notMem (h : separator ∉ s.toList) : pieces separator s = [s] := by
  rw [pieces_eq_splitOn, List.splitOn_eq_singleton h, List.map_singleton, String.ofList_toList]

theorem pieces_append (separator : Char) (s t : String) :
    pieces separator (s ++ String.singleton separator ++ t) =
      pieces separator s ++ pieces separator t := by
  rw [pieces_eq_splitOn, pieces_eq_splitOn, pieces_eq_splitOn, ← List.map_append,
    ← List.splitOn_append_cons_self]
  simp

theorem notMem_of_mem_splitOn {cs part : List Char} (h : part ∈ cs.splitOn separator) :
    separator ∉ part := by
  induction cs generalizing part with
  | nil =>
    obtain rfl := List.mem_singleton.mp h
    exact List.not_mem_nil
  | cons c rest ih =>
    rw [List.splitOn_cons_eq_if_modifyHead] at h
    obtain ⟨first, later, hrest⟩ := List.exists_cons_of_ne_nil (List.splitOn_ne_nil separator rest)
    rw [hrest] at h ih
    split at h
    · rcases List.mem_cons.mp h with rfl | h
      · exact List.not_mem_nil
      · exact ih h
    · rename_i hc
      rcases List.mem_cons.mp h with rfl | h
      · -- the first part of the rest, with the character in front of it
        have hne : separator ≠ c := fun heq => hc (beq_iff_eq.mpr heq.symm)
        exact List.not_mem_cons_of_ne_of_not_mem hne (ih List.mem_cons_self)
      · exact ih (List.mem_cons_of_mem _ h)

/-- No piece has the separator in it. -/
theorem notMem_of_mem_pieces (h : piece ∈ pieces separator s) : separator ∉ piece.toList := by
  rw [pieces_eq_splitOn] at h
  obtain ⟨part, hpart, rfl⟩ := List.mem_map.mp h
  rw [String.toList_ofList]
  exact notMem_of_mem_splitOn hpart

/-- Cutting a joined text cuts each of the texts. -/
theorem pieces_join (separator : Char) (h : ss ≠ []) :
    pieces separator (join (String.singleton separator) ss) = ss.flatMap (pieces separator) := by
  induction ss with
  | nil => exact absurd rfl h
  | cons s rest ih =>
    rw [List.flatMap_cons]
    rcases rest with _ | ⟨t, rest⟩
    · rw [join_singleton, List.flatMap_nil, List.append_nil]
    · have hrest := List.cons_ne_nil t rest
      rw [join_cons _ _ hrest, pieces_append, ih hrest]

/-- Cutting undoes joining exactly if none of the texts has the separator in it. -/
theorem pieces_join_eq_iff (h : ss ≠ []) :
    pieces separator (join (String.singleton separator) ss) = ss ↔
      ∀ s ∈ ss, separator ∉ s.toList := by
  rw [pieces_join separator h]
  constructor
  · intro heq s hs
    rw [← heq] at hs
    obtain ⟨t, -, ht⟩ := List.mem_flatMap.mp hs
    exact notMem_of_mem_pieces ht
  · intro hall
    have hpieces : ss.map (pieces separator) = ss.map fun s => [s] :=
      List.map_congr_left fun s hs => pieces_of_notMem (hall s hs)
    rw [List.flatMap_def, hpieces, ← List.flatMap_def, List.flatMap_singleton']

end Text

/-! ## Texts of paths -/

theorem Segment.dot_notMem_render_index (position : Nat) :
    '.' ∉ (index position).render.toList := by
  intro h
  rw [render, Nat.toList_repr] at h
  have hdigit := Nat.isDigit_of_mem_toDigits (by decide) (by decide) h
  exact absurd hdigit (by decide)

namespace Path

variable {p q : Path} {s : Segment}

/-- No name on the path has a dot in it. Names can be empty. -/
def DotFree (p : Path) : Prop := ∀ name, .field name ∈ p.segments → '.' ∉ name.toList

theorem dotFree_iff : p.DotFree ↔ ∀ text ∈ p.toStrings, '.' ∉ text.toList := by
  constructor
  · intro h text htext
    obtain ⟨s, hs, rfl⟩ := List.mem_map.mp htext
    cases s with
    | field name => exact h name hs
    | index position => exact Segment.dot_notMem_render_index position
  · intro h name hname
    exact h name (List.mem_map.mpr ⟨.field name, hname, rfl⟩)

theorem toStrings_push (p : Path) (s : Segment) : (p.push s).toStrings = p.toStrings ++ [s.render] := by
  rw [toStrings, segments_push, List.map_append]
  rfl

theorem toStrings_eq_nil_iff : p.toStrings = [] ↔ p = root := by
  rw [toStrings, List.map_eq_nil_iff, Path.ext_iff, segments_root]

/-- A dot stands in front of every segment but the first. -/
theorem render_push (hp : p ≠ root) (s : Segment) :
    (p.push s).render = p.render ++ "." ++ s.render := by
  have htexts : p.toStrings ≠ [] := fun h => hp (toStrings_eq_nil_iff.mp h)
  rw [render, toStrings_push, Text.join_append _ htexts (List.cons_ne_nil _ _), Text.join_singleton]
  rfl

theorem pieces_render_eq_iff (hp : p ≠ root) : Text.pieces '.' p.render = p.toStrings ↔ p.DotFree := by
  have htexts : p.toStrings ≠ [] := fun h => hp (toStrings_eq_nil_iff.mp h)
  rw [dotFree_iff, ← Text.pieces_join_eq_iff htexts]
  rfl

/-- The root and an empty name are written alike. -/
example : root.render = (ofField "").render ∧ root.toStrings ≠ (ofField "").toStrings := by decide

/-! ## One step down and back -/

theorem parent?_eq_none_iff : p.parent? = none ↔ p = root := by
  rw [Path.ext_iff, segments_root, ← List.isEmpty_iff, parent?]
  split <;> simp_all

theorem last?_eq_none_iff : p.last? = none ↔ p = root := by
  rw [Path.ext_iff, segments_root, last?, List.getLast?_eq_none_iff]

/-- The parent and the last segment of a path are those that it was pushed from. -/
theorem eq_push_iff : p = q.push s ↔ p.parent? = some q ∧ p.last? = some s := by
  constructor
  · rintro rfl
    exact ⟨parent?_push q s, last?_push q s⟩
  · rintro ⟨hparent, hlast⟩
    rcases p.eq_root_or_push with rfl | ⟨q', s', rfl⟩
    · cases hlast
    · rw [parent?_push] at hparent
      rw [last?_push] at hlast
      rw [Option.some.inj hparent, Option.some.inj hlast]

end Path

/-! ## Many moves -/

namespace Cursor

/-- The move that pushes a segment. -/
def Move.push : Segment → Move
  | .field name => .pushField name
  | .index position => .pushIndex position

/-- The cursor that moves lead to. -/
def after (c : Cursor) (moves : List Move) : Cursor := moves.foldl (fun c m => (c.move m).1) c

theorem moves_append (c : Cursor) (early late : List Move) :
    c.moves (early ++ late) = c.moves early ++ (c.after early).moves late := by
  induction early generalizing c with
  | nil => rfl
  | cons m rest ih =>
    show _ :: (c.move m).1.moves (rest ++ late) = _
    rw [ih]
    rfl

theorem after_append (c : Cursor) (early late : List Move) :
    c.after (early ++ late) = (c.after early).after late := List.foldl_append

theorem move_push (c : Cursor) (s : Segment) :
    c.move (.push s) = ({ c with path := c.path.push s }, true) := by
  cases s <;> rfl

theorem move_parent_eq_false_iff {c : Cursor} : (c.move .parent).2 = false ↔ c.path = .root := by
  rw [← Path.parent?_eq_none_iff, move]
  cases c.path.parent? <;> simp

/-- Pushes put their segments behind the path in their order. -/
theorem after_pushes (c : Cursor) (segments : List Segment) :
    c.after (segments.map .push) = { c with path := c.path ++ ⟨segments⟩ } := by
  induction segments generalizing c with
  | nil =>
    show c = { c with path := c.path ++ Path.root }
    rw [Path.append_root]
  | cons s rest ih =>
    show (c.move (.push s)).1.after (rest.map .push) = _
    rw [move_push, ih, Path.push_append]

theorem move_parent {c : Cursor} {p : Path} {s : Segment} (h : c.path = p.push s) :
    c.move .parent = ({ c with path := p }, true) := by
  rw [move, h, Path.parent?_push]

/-- A segment is taken back by each move to the parent, and each of these moves is possible. -/
theorem climbs (p r : Path) (c : Cursor) (h : c.path = p ++ r) :
    c.after (List.replicate r.length .parent) = { c with path := p } ∧
      ∀ stop ∈ c.moves (List.replicate r.length .parent), stop.2 = true := by
  induction hn : r.length generalizing r c with
  | zero =>
    obtain rfl : r = .root := Path.ext (List.length_eq_zero_iff.mp hn)
    rw [Path.append_root] at h
    subst h
    exact ⟨rfl, nofun⟩
  | succ n ih =>
    rcases r.eq_root_or_push with rfl | ⟨q, s, rfl⟩
    · cases hn
    have hlength : q.length = n := by
      rw [Path.length, Path.segments_push, List.length_append] at hn
      exact Nat.succ.inj hn
    -- the first move takes back the last segment, and `q` is left for the others
    rw [Path.append_push] at h
    obtain ⟨hafter, hmoves⟩ := ih q { c with path := p ++ q } rfl hlength
    rw [List.replicate_succ]
    constructor
    · show (c.move .parent).1.after _ = _
      rw [move_parent h, hafter]
    · show ∀ stop ∈ c.move .parent :: (c.move .parent).1.moves _, stop.2 = true
      rw [move_parent h]
      exact List.forall_mem_cons.mpr ⟨rfl, hmoves⟩

end Cursor

/-! ## Main statement -/

namespace Path

open Cursor (Move)

/-- Paths are their lists of segments, however they are built, and are written with dots in between. -/
structure AsLists : Prop where
  /-- Pushes from the root lead to every path. -/
  built : ∀ (c : Cursor) (p : Path), (c.after (.root :: p.segments.map .push)).path = p
  /-- A path of one segment is a push, -/
  single : (∀ name, ofField name = root.pushField name) ∧
    ∀ position, ofIndex position = root.pushIndex position
  /-- and a path that is collected from names consists of pushes, -/
  collected : ∀ names, ofNames names = names.foldl pushField root
  /-- also if it is set by a move. -/
  collects : ∀ (c : Cursor) names,
    (c.move (.ofNames names)).1 = c.after (.root :: names.map .pushField)
  /-- A path is the push of its last segment to its parent, and is so in no other way, -/
  push_iff : ∀ (p q : Path) s, p = q.push s ↔ p.parent? = some q ∧ p.last? = some s
  /-- and only the root has no parent and no last segment. -/
  root_iff : ∀ p : Path, (p.parent? = none ↔ p = root) ∧ (p.last? = none ↔ p = root)
  /-- The stops of a list of moves end where the moves lead. -/
  stops : ∀ (c : Cursor) early m,
    (c.moves (early ++ [m])).getLast? = some ((c.after early).move m)
  /-- From any path, and with any path saved, pushes are undone by as many moves to the parent. -/
  undone : ∀ (c : Cursor) (segments : List Segment),
    c.after (segments.map .push ++ List.replicate segments.length .parent) = c
  /-- As many moves as there are segments lead to the root, and all of them are possible. -/
  climbs : ∀ c : Cursor, c.after (List.replicate c.path.length .parent) = { c with path := root } ∧
    ∀ stop ∈ c.moves (List.replicate c.path.length .parent), stop.2 = true
  /-- There the next one is not, and nowhere else. -/
  stays_iff : ∀ c : Cursor, (c.move .parent).2 = false ↔ c.path = root
  /-- Two paths are equal if their segments are. -/
  beq_iff : ∀ p q : Path, (p == q) = true ↔ p.segments = q.segments
  /-- A name is never a position, not even if they are written alike. -/
  field_ne_index : ∀ (p q : Path) name position, (p.pushField name == q.pushIndex position) = false
  /-- A name can be written like a position. -/
  alike : ∀ (p : Path) position,
    (p.pushField (Nat.repr position)).toStrings = (p.pushIndex position).toStrings ∧
      (p.pushField (Nat.repr position)).render = (p.pushIndex position).render
  /-- The root is written as nothing, a first segment as it is, and a later one behind a dot. -/
  written : root.render = "" ∧ (∀ s, (root.push s).render = s.render) ∧
    ∀ p s, p ≠ root → (p.push s).render = p.render ++ "." ++ s.render
  /-- Cut at every dot, the text of a path that is not the root gives the texts of its segments back if
      and only if there is no dot in the names. -/
  pieces_iff : ∀ p, p ≠ root → (Text.pieces '.' p.render = p.toStrings ↔ p.DotFree)
  /-- So such paths have the same text if and only if their segments have the same texts. -/
  same_text : ∀ p q, p ≠ root → q ≠ root → p.DotFree → q.DotFree →
    (p.render = q.render ↔ p.toStrings = q.toStrings)

/-- **Paths.** A path is its list of segments, from which it is built by pushes and taken apart by moves
    to the parent, and its text can be cut into the texts of its segments. -/
theorem paths_as_lists : AsLists where
  built c p := by
    show ((c.move .root).1.after (p.segments.map .push)).path = p
    rw [Cursor.after_pushes]
    exact Path.ext (List.nil_append p.segments)
  single := ⟨fun _ => rfl, fun _ => rfl⟩
  collected := ofNames_eq_foldl
  collects c names := by
    have hpushes := (c.move .root).1.after_pushes (names.map .field)
    rw [List.map_map] at hpushes
    exact hpushes.symm
  push_iff p q s := eq_push_iff
  root_iff p := ⟨parent?_eq_none_iff, last?_eq_none_iff⟩
  stops c early m := by
    rw [Cursor.moves_append]
    exact List.getLast?_concat
  undone c segments := by
    rw [Cursor.after_append, Cursor.after_pushes]
    exact (Cursor.climbs c.path ⟨segments⟩ _ rfl).1
  climbs c := Cursor.climbs root c.path c rfl
  stays_iff c := Cursor.move_parent_eq_false_iff
  beq_iff p q := beq_iff_eq.trans Path.ext_iff
  field_ne_index p q name position := by
    refine beq_eq_false_iff_ne.mpr fun heq => ?_
    have hlast := congrArg last? heq
    rw [pushField, pushIndex, last?_push, last?_push] at hlast
    cases hlast
  alike p position := by
    have htexts : (p.pushField (Nat.repr position)).toStrings = (p.pushIndex position).toStrings := by
      rw [pushField, pushIndex, toStrings_push, toStrings_push]
      rfl
    exact ⟨htexts, congrArg (Text.join ".") htexts⟩
  written := ⟨rfl, fun _ => rfl, fun _ s hp => render_push hp s⟩
  pieces_iff p hp := pieces_render_eq_iff hp
  same_text p q hp hq hpdots hqdots := by
    refine ⟨fun htext => ?_, congrArg (Text.join ".")⟩
    rw [← (pieces_render_eq_iff hp).mpr hpdots, htext, (pieces_render_eq_iff hq).mpr hqdots]

/-- A path with an empty name and a name that is written like a position, after a move that is taken
    back. -/
def digitMoves : List Move :=
  [.ofField "a", .pushIndex 0, .pushField "b", .parent, .pushField "", .pushField "0"]

theorem paths_as_lists_digits :
    let p := (Cursor.after {} digitMoves).path
    p.render = "a.0..0" ∧ Text.pieces '.' p.render = ["a", "0", "", "0"] ∧
      p.parent? = some ⟨[.field "a", .index 0, .field ""]⟩ ∧ p.last? = some (.field "0") ∧
      ∀ q : Path, q ≠ root → q.DotFree → p.render = q.render → q.toStrings = ["a", "0", "", "0"] := by
  have hroot : (Cursor.after {} digitMoves).path ≠ root := by decide
  have hdots : (Cursor.after {} digitMoves).path.DotFree := by
    rw [dotFree_iff]
    decide
  refine ⟨rfl, (paths_as_lists.pieces_iff _ hroot).mpr hdots, rfl, rfl, fun q hq hqdots htext => ?_⟩
  exact ((paths_as_lists.same_text _ q hroot hq hdots hqdots).mp htext).symm

end Path

end JsonValidation
