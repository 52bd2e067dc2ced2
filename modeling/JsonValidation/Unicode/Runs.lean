/-!
# Tables over code points

A table lists where its runs of code points start, in ascending order. Looking up a code point is
counting the starts that are not above it.

* `Boundaries`: a set of code points, by the places where membership changes.
* `Runs`: a value for every code point, by the places where it changes.
-/

namespace JsonValidation.Unicode

/-- How many of the ascending starts from `lo` to `hi` are at most `n`, and all those before `lo`. -/
def countFrom (starts : Array Nat) (n lo hi : Nat) : Nat :=
  if lo < hi then
    let middle := (lo + hi) / 2
    if (starts[middle]?).any (· ≤ n) then countFrom starts n (middle + 1) hi
    else countFrom starts n lo middle
  else lo
termination_by hi - lo

/-- How many of the ascending starts are at most `n`. -/
def countLe (starts : Array Nat) (n : Nat) : Nat := countFrom starts n 0 starts.size

/-- A set of code points: membership changes at every one of the ascending boundaries, and is false
    before the first. -/
structure Boundaries where
  starts : Array Nat

/-- Whether the set has a code point. -/
def Boundaries.contains (b : Boundaries) (n : Nat) : Bool := countLe b.starts n % 2 == 1

/-- A value for every code point from the first start on. -/
structure Runs (α : Type) where
  starts : Array Nat
  values : Array α

/-- The value of a code point. -/
def Runs.at? {α : Type} (r : Runs α) (n : Nat) : Option α :=
  match countLe r.starts n with
  | 0 => none
  | k + 1 => r.values[k]?

/-! ## Written tables -/

/-- The value of a digit of a code point, in lower case. -/
def hexDigit? (c : Char) : Option Nat :=
  if c.isDigit then some (c.toNat - '0'.toNat)
  else if 'a' ≤ c ∧ c ≤ 'f' then some (c.toNat - 'a'.toNat + 10)
  else none

/-- Splits a word into the code point that it starts with and the rest. -/
def splitCode (word : List Char) : Nat × List Char :=
  match word with
  | [] => (0, [])
  | c :: rest => go 0 (c :: rest)
where
  go (n : Nat) : List Char → Nat × List Char
    | [] => (n, [])
    | c :: rest =>
      match hexDigit? c with
      | some d => go (16 * n + d) rest
      | none => (n, c :: rest)

/-- The words of a written table, given the characters of the current one, the last first. -/
def wordsFrom (current : List Char) : List Char → List String
  | [] => if current.isEmpty then [] else [String.ofList current.reverse]
  | c :: rest =>
    if c.isWhitespace then
      if current.isEmpty then wordsFrom [] rest
      else String.ofList current.reverse :: wordsFrom [] rest
    else wordsFrom (c :: current) rest

/-- The words of a written table, which stand between blanks. -/
def words (text : String) : List String := wordsFrom [] text.toList

/-- The set that is written as its boundaries. -/
def Boundaries.ofText (text : String) : Boundaries :=
  ⟨((words text).map fun word => (splitCode word.toList).1).toArray⟩

/-- The table that is written as starts, each followed by the name of its value. -/
def Runs.ofText {α : Type} (valueOf : String → α) (text : String) : Runs α :=
  let entries := (words text).map fun word => splitCode word.toList
  ⟨(entries.map fun entry => entry.1).toArray,
    (entries.map fun entry => valueOf (String.ofList entry.2)).toArray⟩

end JsonValidation.Unicode
