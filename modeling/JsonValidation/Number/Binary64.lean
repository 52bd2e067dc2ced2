/-!
# Binary64 numbers, exactly

Every finite binary64 number is a whole multiple of `2^-1074`. A finite number is therefore kept as
a sign and a count of these units, and every comparison is a comparison of integers.

* `nearest`: a ratio rounded to the grid of representable counts, ties to even.
* `nearest_onGrid`: what `nearest` returns is on that grid, so a result below the limit is a number.
* `Binary64.lt`, `Binary64.le`: the comparisons, which are false as soon as one side is not a number.
-/

namespace JsonValidation

namespace Binary64

/-- A power of two. -/
def twoPow (k : Nat) : Nat := Nat.pow 2 k

theorem twoPow_pos (k : Nat) : 0 < twoPow k := Nat.two_pow_pos k

theorem twoPow_mul (j k : Nat) : twoPow j * twoPow k = twoPow (j + k) := (Nat.pow_add 2 j k).symm

theorem twoPow_le {j k : Nat} (h : j ≤ k) : twoPow j ≤ twoPow k :=
  Nat.pow_le_pow_right (by decide) h

/-! ## The grid of representable counts -/

/-- The distance between neighbouring representable counts around `units`: beyond 53 significant bits
    the low bits are zero. -/
def spacing (units : Nat) : Nat := twoPow (units.log2 - 52)

/-- Significands have at most 53 bits, so they are below this. -/
def significandLimit : Nat := twoPow 53

/-- One unit is `2^-fractionBits`. -/
def fractionBits : Nat := 1074

/-- How many units make one. -/
def unitsPerOne : Nat := twoPow fractionBits

/-- A finite number has fewer than this many bits in units. -/
def widthLimit : Nat := fractionBits + 1024

/-- The first count that is too large for a finite number. -/
def limit : Nat := twoPow widthLimit

theorem limit_pos : 0 < limit := twoPow_pos widthLimit

/-- A count of units that a finite number can have. -/
def OnGrid (units : Nat) : Prop := units % spacing units = 0 ∧ units < limit

instance (units : Nat) : Decidable (OnGrid units) := inferInstanceAs (Decidable (_ ∧ _))

/-- The ratio `num / den`, in units, rounded to the nearest representable count. A ratio halfway
    between two counts goes to the even multiple of their distance. -/
def nearest (num den : Nat) : Nat :=
  let step := spacing (num / den)
  let below := num / (den * step)
  let rest := 2 * (num % (den * step))
  if den * step < rest ∨ (rest = den * step ∧ below % 2 = 1) then (below + 1) * step
  else below * step

/-- A multiple of a distance that a significand can count is on the grid. -/
theorem mul_spacing_mod_spacing {m : Nat} (h : m ≤ significandLimit) (whole : Nat) :
    m * spacing whole % spacing (m * spacing whole) = 0 := by
  rw [significandLimit, twoPow, Nat.pow_eq] at h
  rw [spacing.eq_def whole, twoPow, Nat.pow_eq]
  generalize whole.log2 - 52 = k
  rcases Nat.lt_or_ge m (2 ^ 53) with hm | hm
  · have hlog : (m * 2 ^ k).log2 - 52 ≤ k := by
      rcases Nat.eq_zero_or_pos (m * 2 ^ k) with h0 | h0
      · simp [h0]
      · have : (m * 2 ^ k).log2 < 53 + k := by
          rw [Nat.log2_lt (by omega), Nat.pow_add]
          exact Nat.mul_lt_mul_of_pos_right hm (Nat.two_pow_pos k)
        omega
    rw [spacing, twoPow, Nat.pow_eq]
    exact Nat.mod_eq_zero_of_dvd
      (Nat.dvd_trans (Nat.pow_dvd_pow 2 hlog) (Nat.dvd_mul_left _ m))
  · obtain rfl : m = 2 ^ 53 := by omega
    rw [← Nat.pow_add, spacing, twoPow, Nat.pow_eq, Nat.log2_two_pow]
    exact Nat.mod_eq_zero_of_dvd (Nat.pow_dvd_pow 2 (by omega))

theorem div_spacing_lt (whole : Nat) : whole / spacing whole < significandLimit := by
  rw [spacing, significandLimit, Nat.div_lt_iff_lt_mul (twoPow_pos _), twoPow_mul]
  exact Nat.lt_of_lt_of_le Nat.lt_log2_self (twoPow_le (by omega))

/-- A rounded ratio has at most 53 significant bits. -/
theorem nearest_mod_spacing (num den : Nat) :
    nearest num den % spacing (nearest num den) = 0 := by
  have hq : num / (den * spacing (num / den)) < significandLimit := by
    rw [← Nat.div_div_eq_div_mul]; exact div_spacing_lt _
  unfold nearest
  dsimp only
  split
  · exact mul_spacing_mod_spacing (by omega) _
  · exact mul_spacing_mod_spacing (by omega) _

theorem spacing_le (whole : Nat) : spacing whole ≤ whole + 1 := by
  unfold spacing
  rcases Nat.eq_zero_or_pos whole with rfl | h
  · decide
  · exact Nat.le_succ_of_le (Nat.le_trans (twoPow_le (Nat.sub_le _ _))
      (Nat.log2_self_le (by omega)))

/-- Rounding at most doubles a ratio. -/
theorem nearest_le (num den : Nat) : nearest num den ≤ 2 * (num / den) + 1 := by
  have hs := spacing_le (num / den)
  have hq : num / (den * spacing (num / den)) * spacing (num / den) ≤ num / den := by
    rw [← Nat.div_div_eq_div_mul]; exact Nat.div_mul_le_self _ _
  unfold nearest
  dsimp only
  split
  · rw [Nat.succ_mul]; omega
  · omega

/-- A rounded ratio below the limit is a count of a finite number. -/
theorem nearest_onGrid {num den : Nat} (h : nearest num den < limit) : OnGrid (nearest num den) :=
  ⟨nearest_mod_spacing num den, h⟩

/-! ## Numbers -/

/-- A finite binary64 number: `±units · 2^-1074`. The two zeros differ. -/
structure Finite where
  negative : Bool
  units : Nat
  onGrid : OnGrid units
deriving DecidableEq

/-- The number in units, a zero of either sign being `0`. -/
def Finite.toInt (x : Finite) : Int := if x.negative then -x.units else x.units

end Binary64

/-- A binary64 number: finite, infinite or not a number. -/
inductive Binary64 where
  | finite (x : Binary64.Finite)
  | infinite (negative : Bool)
  | nan
deriving DecidableEq

namespace Binary64

/-- The positive zero. -/
def zero : Binary64 := .finite ⟨false, 0, Nat.zero_mod _, limit_pos⟩

/-- Strictly below, as numbers. -/
def lt : Binary64 → Binary64 → Bool
  | .nan, _ | _, .nan => false
  | .infinite a, .infinite b => a && !b
  | .infinite a, .finite _ => a
  | .finite _, .infinite b => !b
  | .finite x, .finite y => x.toInt < y.toInt

/-- Below or equal, as numbers. -/
def le : Binary64 → Binary64 → Bool
  | .nan, _ | _, .nan => false
  | .infinite a, .infinite b => a || !b
  | .infinite a, .finite _ => a
  | .finite _, .infinite b => !b
  | .finite x, .finite y => x.toInt ≤ y.toInt

/-- `digits · 10^exponent` in units, as a ratio. -/
def decimalRatio (digits : Nat) (exponent : Int) : Nat × Nat :=
  if exponent < 0 then (digits * unitsPerOne, Nat.pow 10 exponent.natAbs)
  else (digits * Nat.pow 10 exponent.natAbs * unitsPerOne, 1)

/-- The count of units nearest to `digits · 10^exponent`. -/
def unitsOfDecimal (digits : Nat) (exponent : Int) : Nat :=
  let (num, den) := decimalRatio digits exponent
  nearest num den

/-- The number nearest to `±digits · 10^exponent`, infinite beyond the largest finite number. -/
def ofDecimal (negative : Bool) (digits : Nat) (exponent : Int) : Binary64 :=
  let (num, den) := decimalRatio digits exponent
  if h : nearest num den < limit then .finite ⟨negative, nearest num den, nearest_onGrid h⟩
  else .infinite negative

end Binary64

end JsonValidation
