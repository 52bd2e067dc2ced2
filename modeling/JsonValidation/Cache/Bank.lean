import JsonValidation.Cache.Basic

/-!
# Banks of caches

A bank is a growing list of caches that starts with one empty cache. A step asks one of them for its
result, copies one, or adds an empty one.

* `Bank.step`: one step and what it showed, or nothing if there is no such cache.
* `Bank.run`: a list of steps, with the bank after each of them.
-/

namespace JsonValidation.Cache

/-- A list of caches. -/
structure Bank (ρ : Type) where
  caches : List (Cache ρ) := [{}]

namespace Bank

variable {ρ : Type}

/-- A step of a bank. -/
inductive Step (ρ : Type) where
  /-- Ask the cache at a position, with the result to build if it is empty. -/
  | ask (position : Nat) (result : ρ)
  /-- Append a copy of the cache at a position. -/
  | copy (position : Nat)
  /-- Append an empty cache. -/
  | add

/-- What a step showed. -/
inductive Effect (ρ : Type) where
  | answered (ran : Bool) (result : ρ)
  | appended

/-- Makes a step. -/
def step (b : Bank ρ) : Step ρ → Option (Bank ρ × Effect ρ)
  | .ask position result => do
    let cache ← b.caches[position]?
    let answer := cache.getOrBuild fun _ => result
    return (⟨b.caches.set position answer.cache⟩, .answered answer.ran answer.result)
  | .copy position => do
    let cache ← b.caches[position]?
    return (⟨b.caches ++ [cache.copy]⟩, .appended)
  | .add => some (⟨b.caches ++ [{}]⟩, .appended)

/-- Makes steps one after the other. -/
def run (b : Bank ρ) : List (Step ρ) → Option (List (Bank ρ × Effect ρ))
  | [] => some []
  | s :: rest => do
    let stop ← b.step s
    return stop :: (← run stop.1 rest)

end Bank

end JsonValidation.Cache
