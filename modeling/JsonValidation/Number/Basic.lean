import JsonValidation.Number.Layout

/-!
# The numbers of a JSON value

A number is an integer of up to 64 bits or a finite binary64 number. `2` and `2.0` are different
values of equal magnitude.

* `Integer.toFinite`: the binary64 number nearest to an integer.
* `Number.same`: equality as values, where an integer never equals a binary64 number.
* `Number.equals`: equality of magnitudes, which compares words where both numbers fit one and
  binary64 numbers otherwise.
-/

namespace JsonValidation

open Binary64 (Finite)

-- powers of integers are those of the core library here, whatever else is imported
local instance (priority := 10000) corePow : Pow Int Nat := instPowNat

/-- An integer that a signed or an unsigned 64-bit word can hold. -/
structure Integer where
  val : Int
  lower : -2 ^ (63 : Nat) ≤ val := by decide
  upper : val < 2 ^ (64 : Nat) := by decide
deriving DecidableEq

namespace Integer

/-- The integer in a signed word. -/
def signed? (n : Integer) : Option Int := if n.val < 2 ^ (63 : Nat) then some n.val else none

/-- The integer in an unsigned word. -/
def unsigned? (n : Integer) : Option Nat := if 0 ≤ n.val then some n.val.toNat else none

/-- The units of the binary64 number nearest to an integer. -/
def units (n : Integer) : Nat := Binary64.nearest (n.val.natAbs * Binary64.unitsPerOne) 1

theorem units_lt_limit (n : Integer) : n.units < Binary64.limit := by
  have hn : n.val.natAbs ≤ Binary64.twoPow 64 := by
    show n.val.natAbs ≤ 18446744073709551616
    have := n.lower; have := n.upper; omega
  have hone : 1 ≤ Binary64.twoPow 64 * Binary64.unitsPerOne :=
    Nat.mul_pos (Binary64.twoPow_pos _) (Binary64.twoPow_pos _)
  have hround : n.units ≤ 2 * (n.val.natAbs * Binary64.unitsPerOne) + 1 := by
    have h := Binary64.nearest_le (n.val.natAbs * Binary64.unitsPerOne) 1
    rwa [Nat.div_one] at h
  have hprod : n.val.natAbs * Binary64.unitsPerOne ≤
      Binary64.twoPow 64 * Binary64.unitsPerOne :=
    Nat.mul_le_mul_right _ hn
  have hbig : 4 * (Binary64.twoPow 64 * Binary64.unitsPerOne) ≤ Binary64.limit := by
    have hfour : 4 = Binary64.twoPow 2 := rfl
    rw [Binary64.unitsPerOne, Binary64.limit, hfour, Binary64.twoPow_mul, Binary64.twoPow_mul]
    exact Binary64.twoPow_le (by decide)
  omega

/-- The binary64 number nearest to an integer, a tie going to the even significand. -/
def toFinite (n : Integer) : Finite :=
  ⟨n.val < 0, n.units, Binary64.nearest_onGrid n.units_lt_limit⟩

end Integer

/-- A number of a JSON value. -/
inductive Number where
  | int (n : Integer)
  | float (x : Finite)
deriving DecidableEq

namespace Number

/-- The number in a signed word, if it is an integer that fits one. -/
def signed? : Number → Option Int
  | .int n => n.signed?
  | .float _ => none

/-- The number in an unsigned word, if it is an integer that fits one. -/
def unsigned? : Number → Option Nat
  | .int n => n.unsigned?
  | .float _ => none

/-- The nearest binary64 number. -/
def toFinite : Number → Finite
  | .int n => n.toFinite
  | .float x => x

/-- The nearest binary64 number, among all of them: the view that `numeric::as_number` takes of a
    number. -/
def toBinary64 (n : Number) : Binary64 := .finite n.toFinite

/-- Equality as values: integers with integers, and binary64 numbers with each other, where the two
    zeros are equal. -/
def same : Number → Number → Bool
  | .int a, .int b => a.val == b.val
  | .float x, .float y => x.toInt == y.toInt
  | _, _ => false

/-- Equality of magnitudes (`literal::numbers_equal`): in signed words if both numbers fit one, else in
    unsigned words, else as binary64 numbers. -/
def equals (a b : Number) : Bool :=
  match a.signed?, b.signed? with
  | some x, some y => x == y
  | _, _ =>
    match a.unsigned?, b.unsigned? with
    | some x, some y => x == y
    | _, _ => a.toFinite.toInt == b.toFinite.toInt

/-- The compact text of a number. -/
def render : Number → String
  | .int n => Int.repr n.val
  | .float x => Binary64.Layout.value.finite x

end Number

end JsonValidation
