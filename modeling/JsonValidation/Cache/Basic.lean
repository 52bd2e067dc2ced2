/-!
# Caches that are filled once

A cache is empty or holds one result. Asking it for the result builds it when the cache is empty, and
what a cache holds never changes again. A copy of a full cache holds the same result, a copy of an
empty one is independent.

* `getOrBuild_of_populated`, `getOrBuild_of_empty`: what asking returns and leaves behind.
-/

namespace JsonValidation

/-- A cache of a result (`RoutineCache`). -/
structure Cache (ρ : Type) where
  held : Option ρ := none

namespace Cache

variable {ρ : Type}

/-- Whether the cache holds a result (`RoutineCache::is_populated`). -/
def populated (c : Cache ρ) : Bool := c.held.isSome

/-- A result, and how a cache answered for it. -/
structure Answer (ρ : Type) where
  result : ρ
  cache : Cache ρ
  /-- Whether the result was built for this answer. -/
  ran : Bool

/-- The result of a cache, built now if it is empty (`RoutineCache::get_or_build`). -/
def getOrBuild (c : Cache ρ) (build : Unit → ρ) : Answer ρ :=
  match c.held with
  | some result => ⟨result, c, false⟩
  | none => let result := build (); ⟨result, ⟨some result⟩, true⟩

/-- A copy (`RoutineCache::clone`): it shares the result of a full cache and starts empty otherwise. -/
def copy (c : Cache ρ) : Cache ρ := ⟨c.held⟩

/-- The text that is shown for a cache (`RoutineCache::fmt`). -/
def render (c : Cache ρ) : String :=
  "RoutineCache \x7b populated: " ++ (if c.populated then "true" else "false") ++ " \x7d"

theorem getOrBuild_of_populated {c : Cache ρ} {result : ρ} (h : c.held = some result)
    (build : Unit → ρ) : c.getOrBuild build = ⟨result, c, false⟩ := by
  simp [getOrBuild, h]

theorem getOrBuild_of_empty {c : Cache ρ} (h : c.held = none) (build : Unit → ρ) :
    c.getOrBuild build = ⟨build (), ⟨some (build ())⟩, true⟩ := by
  simp [getOrBuild, h]

end Cache

end JsonValidation
