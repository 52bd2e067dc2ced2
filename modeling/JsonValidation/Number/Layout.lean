import JsonValidation.Number.Shortest

/-!
# How a binary64 number is written

A number is written with its shortest digits. What else the text shows is decided by a `Layout`: when
the digits are written positionally, whether a whole number keeps a fractional digit, and which way a
tie between two shortest decimals goes.

* `Layout.value`: numbers inside a JSON text, as in `1.0`, `0.00001` and `1e+16`.
* `Layout.bound`: the bounds that messages name, as in `5`, `0.0000001` and `-0`.
-/

namespace JsonValidation.Binary64

/-- The choices of a written form. -/
structure Layout where
  /-- Which of two equally close shortest decimals is written. -/
  tie : Tie
  /-- Whether a number whose decimal point stands after this many digits is written positionally. -/
  positional : Int → Bool
  /-- What follows the digits of a whole number that is written positionally. -/
  afterWhole : String

/-- Numbers inside a JSON text: positional from `10^-5` up to `10^16`, with at least one fractional
    digit. -/
def Layout.value : Layout where
  tie := .toEven
  positional point := -5 < point && point ≤ 16
  afterWhole := ".0"

/-- Bounds inside a message: always positional, and a whole number has no fractional digits. -/
def Layout.bound : Layout where
  tie := .up
  positional _ := true
  afterWhole := ""

/-- That many zeros. -/
def zeros (n : Nat) : String := String.ofList (List.replicate n '0')

/-- Digits with the decimal point after the first `point` of them, padded with zeros on either
    side. -/
def positionalText (digits : String) (point : Int) (afterWhole : String) : String :=
  if point ≤ 0 then "0." ++ zeros point.natAbs ++ digits
  else if digits.length ≤ point.toNat then
    digits ++ zeros (point.toNat - digits.length) ++ afterWhole
  else String.ofList (digits.toList.take point.toNat) ++ "." ++
    String.ofList (digits.toList.drop point.toNat)

/-- One digit before the point, the others behind it, and a signed exponent. -/
def scientificText (digits : String) (point : Int) : String :=
  let mantissa := match digits.toList with
    | first :: rest@(_ :: _) => String.ofList [first, '.'] ++ String.ofList rest
    | _ => digits
  let exponent := point - 1
  mantissa ++ "e" ++ (if exponent < 0 then "-" else "+") ++ Nat.repr exponent.natAbs

/-- The text of a nonzero magnitude. -/
def Layout.magnitude (layout : Layout) (units : Nat) : String :=
  let d := shortest layout.tie units
  let digits := Nat.repr d.digits
  let point := digits.length + d.exponent
  if layout.positional point then positionalText digits point layout.afterWhole
  else scientificText digits point

/-- The text of a finite number, with the sign of a zero. -/
def Layout.finite (layout : Layout) (x : Finite) : String :=
  (if x.negative then "-" else "") ++
    if x.units = 0 then "0" ++ layout.afterWhole else layout.magnitude x.units

/-- The text of a bound. -/
def boundText : Binary64 → String
  | .finite x => Layout.bound.finite x
  | .infinite negative => if negative then "-inf" else "inf"
  | .nan => "NaN"

end JsonValidation.Binary64
