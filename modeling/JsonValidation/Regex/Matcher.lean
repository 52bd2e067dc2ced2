import JsonValidation.Regex.Expr

/-!
# Matching

The places of a text lie before, between and after its characters and are numbered from zero. A set of
places is a natural number with a bit for each. An expression sends the places where a match can start
to the places where it can end, so a whole text is searched for all starts at once, without
backtracking.

* `Plan.ends`: the places that a match can end at.
* `Expr.matchesText`: whether an expression matches somewhere in a text.
-/

namespace JsonValidation.Regex

/-- The places before the characters that satisfy a test. -/
def placesBefore (test : Char → Bool) : List Char → Nat
  | [] => 0
  | c :: rest => 2 * placesBefore test rest + (test c).toNat

/-- The places where an assertion holds, given the character before the first of them. -/
def placesOf (l : Look) (before : Option Char) : List Char → Nat
  | [] => (l.holds before none).toNat
  | c :: rest => 2 * placesOf l (some c) rest + (l.holds before (some c)).toNat

/-- An expression laid out on a text. -/
inductive Plan where
  /-- Steps over a character from each of some places. -/
  | advance (places : Nat)
  /-- Stays at each of some places. -/
  | stay (places : Nat)
  | sequence (parts : List Plan)
  | alternation (options : List Plan)
  | repetition (p : Plan) (min : Nat) (max : Option Nat)

mutual

/-- Lays an expression out on a text. -/
def Plan.ofExpr (text : List Char) : Expr → Plan
  | .chars set => .advance (placesBefore set.contains text)
  | .look l => .stay (placesOf l none text)
  | .sequence parts => .sequence (Plan.ofExprs text parts)
  | .alternation options => .alternation (Plan.ofExprs text options)
  | .repetition e min max => .repetition (Plan.ofExpr text e) min max
  | .group e => Plan.ofExpr text e

/-- Lays expressions out on a text. -/
def Plan.ofExprs (text : List Char) : List Expr → List Plan
  | [] => []
  | e :: rest => Plan.ofExpr text e :: Plan.ofExprs text rest

end

/-- Sends places through a function a number of times. Places that the function leaves as they are stay
    so. -/
def iterate (f : Nat → Nat) : Nat → Nat → Nat
  | 0, places => places
  | n + 1, places =>
    let next := f places
    if next = places then places else iterate f n next

/-- The places that up to a number of steps lead to: those seen so far, and what can be reached from
    those that were new in the last step. -/
def upTo (f : Nat → Nat) : Nat → Nat → Nat → Nat
  | 0, _, seen => seen
  | n + 1, fresh, seen =>
    let reached := f fresh
    let new := reached ^^^ (reached &&& seen)
    if new = 0 then seen else upTo f n new (seen ||| new)

mutual

/-- The places where a match can end that starts at one of some places, in a text of some length. Every
    round of a repetition that leads anywhere new adds a place, so that no more rounds are needed than
    there are places. -/
def Plan.ends (length : Nat) : Plan → Nat → Nat
  | .advance places, starts => 2 * (starts &&& places)
  | .stay places, starts => starts &&& places
  | .sequence parts, starts => endsInTurn length parts starts
  | .alternation options, starts => endsOfAny length options starts
  | .repetition p min max, starts =>
    let first := iterate (fun places => p.ends length places) min starts
    let rounds := match max with
      | some max => Nat.min (max - min) (length + 1)
      | none => length + 1
    upTo (fun places => p.ends length places) rounds first first

/-- The places after several plans, one after the other. -/
def endsInTurn (length : Nat) : List Plan → Nat → Nat
  | [], starts => starts
  | p :: rest, starts => endsInTurn length rest (p.ends length starts)

/-- The places after any of several plans. -/
def endsOfAny (length : Nat) : List Plan → Nat → Nat
  | [], _ => 0
  | p :: rest, starts => p.ends length starts ||| endsOfAny length rest starts

end

/-- Whether an expression matches somewhere in a text. -/
def Expr.matchesText (e : Expr) (text : String) : Bool :=
  let cs := text.toList
  let everywhere := (1 <<< (cs.length + 1)) - 1
  (Plan.ofExpr cs e).ends cs.length everywhere != 0

end JsonValidation.Regex
