import JsonValidation.Number.Binary64

/-!
# The shortest decimal of a binary64 number

A decimal reads back to a number when rounding it gives that number. The shortest decimal is searched
grid by grid: on the grid of `p` significant digits only the two neighbours of the number can be the
nearest point that reads back, and the first grid where one of them does wins.

* `gridNeighbour`: the candidate of one grid, if it has one.
* `shortest`: the digits and their exponent.
-/

namespace JsonValidation.Binary64

/-- Which of two equally close decimals of the same length is chosen. -/
inductive Tie where
  | toEven
  | up
deriving DecidableEq

/-- The decimal `digits · 10^exponent`. -/
structure Decimal where
  digits : Nat
  exponent : Int
deriving DecidableEq

/-- The decimal rounds to the number with this many units. -/
def Decimal.readsBack (d : Decimal) (units : Nat) : Bool :=
  unitsOfDecimal d.digits d.exponent == units

/-- The same decimal without trailing zeros among its digits. -/
def Decimal.trim (d : Decimal) : Decimal :=
  if h : 0 < d.digits ∧ d.digits % 10 = 0 then trim ⟨d.digits / 10, d.exponent + 1⟩ else d
termination_by d.digits
decreasing_by exact Nat.div_lt_self h.1 (by decide)

/-- Whether `10^k` is at most the number with this many units. -/
def powerOfTenLe (k : Int) (units : Nat) : Bool :=
  if k < 0 then unitsPerOne ≤ units * Nat.pow 10 k.natAbs
  else Nat.pow 10 k.natAbs * unitsPerOne ≤ units

/-- The exponent of the leading decimal digit of a nonzero number. The binary logarithm gives it up
    to one, and a comparison with the powers of ten corrects it. -/
def leadingExponent (units : Nat) : Int :=
  let guess := ((units.log2 : Int) - fractionBits) * 30103 / 100000
  if powerOfTenLe (guess + 1) units then guess + 1
  else if powerOfTenLe guess units then guess
  else guess - 1

/-- The number divided by `10^exponent`, as a ratio. -/
def scaled (units : Nat) (exponent : Int) : Nat × Nat :=
  if exponent < 0 then (units * Nat.pow 10 exponent.natAbs, unitsPerOne)
  else (units, Nat.pow 10 exponent.natAbs * unitsPerOne)

/-- The neighbour of the number on the grid of `10^exponent` that reads back and is nearest to it. -/
def gridNeighbour (tie : Tie) (units : Nat) (exponent : Int) : Option Decimal :=
  let (num, den) := scaled units exponent
  let below : Decimal := ⟨num / den, exponent⟩
  let above : Decimal := ⟨num / den + 1, exponent⟩
  let rest := 2 * (num % den)
  let preferBelow : Bool :=
    rest < den || (rest == den && tie == .toEven && below.digits % 2 == 0)
  match below.readsBack units, above.readsBack units with
  | true, true => some (if preferBelow then below else above)
  | true, false => some below
  | false, true => some above
  | false, false => none

/-- How many significant digits always suffice. -/
def maxDigits : Nat := 17

/-- The shortest decimal that reads back to a nonzero number, and of these the nearest. -/
def shortest (tie : Tie) (units : Nat) : Decimal :=
  let top := leadingExponent units
  let grids := (List.range maxDigits).map fun (p : Nat) => top - (p : Int)
  ((grids.findSome? (gridNeighbour tie units)).getD
    ⟨units * Nat.pow 5 fractionBits, -fractionBits⟩).trim

end JsonValidation.Binary64
