import JsonValidation.Schema.Output

/-!
# Predicates on validated values

The predicates that a schema description can name. Each looks at the value that an output stands for,
which may be absent.

* `Predicate.holds`: whether a value, present or not, satisfies a predicate.
-/

namespace JsonValidation

/-- A predicate on a value that may be absent. -/
inductive Predicate where
  /-- The same answer for everything. -/
  | always (answer : Bool)
  | absent
  | null
  /-- An even integer that a signed 64-bit word can hold. -/
  | even
  /-- A number that is below a bound when both are binary64 numbers. -/
  | below (bound : Binary64)
  /-- A string with a given text in it. -/
  | contains (text : String)
  /-- That many items, members or characters. -/
  | size (n : Nat)
  /-- A value with equal members of two names, where a missing member equals a missing member. -/
  | same (first second : String)

namespace Predicate

/-- Whether some characters occur in a row among others. -/
def occursIn (text : List Char) : List Char → Bool
  | [] => text.isEmpty
  | c :: rest => text.isPrefixOf (c :: rest) || occursIn text rest

/-- Whether two values, present or not, are equal as values. -/
def sameOption : Option Value → Option Value → Bool
  | none, none => true
  | some a, some b => a == b
  | _, _ => false

/-- Whether a value, present or not, satisfies a predicate. -/
def holds : Predicate → Option Value → Bool
  | always answer, _ => answer
  | absent, input => input.isNone
  | null, some .null => true
  | even, some (.number n) => n.signed?.any fun k => k % 2 == 0
  | below bound, some (.number n) => n.toBinary64.lt bound
  | contains text, some (.string s) => occursIn text.toList s.toList
  | size n, some (.array items) => items.length == n
  | size n, some (.object members) => members.length == n
  | size n, some (.string s) => s.length == n
  | same first second, some value => sameOption (value.member? first) (value.member? second)
  | _, _ => false

/-- The predicate on outputs: it looks at the values that they stand for. -/
def accepts (p : Predicate) (output : Output) : Bool := p.holds output.toValue?

end Predicate

end JsonValidation
