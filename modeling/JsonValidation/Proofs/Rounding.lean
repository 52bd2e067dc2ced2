import JsonValidation.Number.Basic

/-!
# Rounding to the nearest binary64 number

Rounding is specified by what it has to return, and not by how: a representable number that is at least
as close as every other, and with an even significand if another one is as close. The counts of finite
numbers get coarser from one power of two to the next, and what carries the proof is that no
representable count lies between a count's `floorCount` and its `nextCount`.

* `nearest_closest`, `nearest_tie`, `nearest_error`: rounding a count of units.
* `Finite.Rounds`: a finite number is the nearest one to a value.
* `Integer.rounds_iff`: exactly the binary64 number of an integer is nearest to it.
* `Integer.le_toFinite_iff`, `Integer.toFinite_le_iff`: comparing an integer after rounding it.
* `Number.exact`: the value of an integer or of a binary64 number.
-/

namespace JsonValidation.Binary64

/-! ## Neighbours on the grid -/

theorem spacing_pos (units : Nat) : 0 < spacing units := twoPow_pos _

theorem twoPow_dvd {j k : Nat} (h : j ≤ k) : twoPow j ∣ twoPow k := Nat.pow_dvd_pow 2 h

theorem twoPow_lt {j k : Nat} (h : j < k) : twoPow j < twoPow k :=
  Nat.pow_lt_pow_right (by decide) h

theorem log2_twoPow (k : Nat) : (twoPow k).log2 = k := Nat.log2_two_pow

/-- Larger counts are at least as far apart. -/
theorem spacing_dvd {a b : Nat} (h : a ≤ b) : spacing a ∣ spacing b := by
  rcases Nat.eq_zero_or_pos a with rfl | ha
  · exact ⟨spacing b, (Nat.one_mul _).symm⟩
  · have hlog : a.log2 ≤ b.log2 :=
      (Nat.le_log2 (by omega)).mpr (Nat.le_trans (Nat.log2_self_le (by omega)) h)
    exact twoPow_dvd (by omega)

theorem spacing_le_twoPow {units k : Nat} (h : units < twoPow (k + 53)) :
    spacing units ≤ twoPow k := by
  rcases Nat.eq_zero_or_pos units with rfl | hpos
  · exact twoPow_pos k
  · have hlog := (Nat.log2_lt (by omega)).mpr h
    exact twoPow_le (by omega)

/-- A significand below its limit does not widen the distance. -/
theorem spacing_mul_dvd {m : Nat} (hm : m < significandLimit) (whole : Nat) :
    spacing (m * spacing whole) ∣ spacing whole := by
  rcases Nat.eq_zero_or_pos (m * spacing whole) with h0 | h0
  · rw [h0]
    exact ⟨spacing whole, (Nat.one_mul _).symm⟩
  · have hlt : m * spacing whole < twoPow (53 + (whole.log2 - 52)) :=
      Nat.lt_of_lt_of_eq (Nat.mul_lt_mul_of_pos_right hm (spacing_pos whole)) (twoPow_mul _ _)
    have hlog := (Nat.log2_lt (by omega)).mpr hlt
    exact twoPow_dvd (by omega)

/-- The largest representable count up to a count. -/
def floorCount (whole : Nat) : Nat := whole / spacing whole * spacing whole

theorem floorCount_add_mod (whole : Nat) : floorCount whole + whole % spacing whole = whole :=
  Nat.div_add_mod' whole (spacing whole)

theorem spacing_floorCount (whole : Nat) : spacing (floorCount whole) = spacing whole := by
  refine Nat.dvd_antisymm (spacing_mul_dvd (div_spacing_lt whole) whole) ?_
  -- the highest power of two up to the count is representable
  rcases Nat.lt_or_ge whole.log2 53 with h | h
  · have hone : spacing whole = 1 := by
      rw [spacing, Nat.sub_eq_zero_of_le (by omega)]
      rfl
    rw [hone]
    exact ⟨_, (Nat.one_mul _).symm⟩
  · have hwhole : whole ≠ 0 := by
      rintro rfl
      exact absurd h (by decide)
    have hpow : twoPow whole.log2 = twoPow 52 * spacing whole := by
      rw [spacing, twoPow_mul]
      congr 1
      omega
    have hle : twoPow whole.log2 ≤ floorCount whole := by
      rw [hpow]
      refine Nat.mul_le_mul_right _ ((Nat.le_div_iff_mul_le (spacing_pos whole)).mpr ?_)
      rw [← hpow]
      exact Nat.log2_self_le hwhole
    have hspacing : spacing (twoPow whole.log2) = spacing whole := by
      rw [spacing, spacing, log2_twoPow]
    rw [← hspacing]
    exact spacing_dvd hle

/-- The next representable count. -/
def nextCount (whole : Nat) : Nat := floorCount whole + spacing whole

theorem nextCount_eq (whole : Nat) :
    nextCount whole = (whole / spacing whole + 1) * spacing whole := (Nat.succ_mul _ _).symm

/-- No representable count lies between a count's floor and the next one. -/
theorem grid_side {y : Nat} (hy : y % spacing y = 0) (whole : Nat) :
    y ≤ floorCount whole ∨ nextCount whole ≤ y := by
  rcases Nat.lt_or_ge (floorCount whole) y with h | h
  · right
    have hdvd : spacing whole ∣ y := by
      refine Nat.dvd_trans ?_ (Nat.dvd_of_mod_eq_zero hy)
      rw [← spacing_floorCount]
      exact spacing_dvd (Nat.le_of_lt h)
    obtain ⟨m, rfl⟩ := hdvd
    rw [floorCount, Nat.mul_comm] at h
    rw [nextCount_eq, Nat.mul_comm]
    exact Nat.mul_le_mul_left _ (Nat.lt_of_mul_lt_mul_left h)
  · exact .inl h

/-- The significand of a representable count. -/
def significand (units : Nat) : Nat := units / spacing units

theorem significand_floorCount (whole : Nat) :
    significand (floorCount whole) = whole / spacing whole := by
  rw [significand, spacing_floorCount, floorCount, Nat.mul_div_cancel _ (spacing_pos whole)]

/-- Neighbours have significands of different parity, also where the distance doubles. -/
theorem significand_nextCount (whole : Nat) :
    significand (nextCount whole) % 2 = (whole / spacing whole + 1) % 2 := by
  rcases Nat.lt_or_eq_of_le (Nat.succ_le_of_lt (div_spacing_lt whole)) with hlt | heq
  · have hspacing : spacing (nextCount whole) = spacing whole := by
      refine Nat.dvd_antisymm ?_ ?_
      · rw [nextCount_eq]
        exact spacing_mul_dvd hlt whole
      · rw [← spacing_floorCount whole]
        exact spacing_dvd (Nat.le_add_right _ _)
    rw [significand, hspacing, nextCount_eq, Nat.mul_div_cancel _ (spacing_pos whole)]
  · -- the next count is a power of two, whose significand is even
    have hpow : nextCount whole = twoPow (53 + (whole.log2 - 52)) := by
      rw [nextCount_eq, ← Nat.succ_eq_add_one, heq, significandLimit, spacing, twoPow_mul]
    have hspacing : spacing (nextCount whole) = twoPow (whole.log2 - 52 + 1) := by
      rw [hpow, spacing, log2_twoPow]
      congr 1
      omega
    have hsplit : nextCount whole = twoPow 52 * twoPow (whole.log2 - 52 + 1) := by
      rw [hpow, twoPow_mul]
      congr 1
      omega
    rw [significand, hspacing, hsplit, Nat.mul_div_cancel _ (twoPow_pos _), ← Nat.succ_eq_add_one, heq]
    rfl

/-! ## Rounding a count -/

/-- A whole count is rounded to one of its neighbours, to the even one from halfway. -/
theorem nearest_cases (whole : Nat) :
    (nearest whole 1 = floorCount whole ∧ 2 * (whole % spacing whole) ≤ spacing whole ∧
      (2 * (whole % spacing whole) = spacing whole → whole / spacing whole % 2 = 0)) ∨
    (nearest whole 1 = nextCount whole ∧ spacing whole ≤ 2 * (whole % spacing whole) ∧
      (2 * (whole % spacing whole) = spacing whole → whole / spacing whole % 2 = 1)) := by
  rw [nextCount_eq, floorCount, nearest, Nat.div_one, Nat.one_mul]
  split
  · exact .inr ⟨rfl, by omega⟩
  · exact .inl ⟨rfl, by omega⟩

/-- **Rounding.** No representable count is closer. -/
theorem nearest_closest (whole : Nat) {y : Nat} (hy : y % spacing y = 0) :
    ((nearest whole 1 : Int) - whole).natAbs ≤ ((y : Int) - whole).natAbs := by
  have hside := grid_side hy whole
  have hwhole := floorCount_add_mod whole
  have hrest := Nat.mod_lt whole (spacing_pos whole)
  have hnext : nextCount whole = floorCount whole + spacing whole := rfl
  rcases nearest_cases whole with ⟨heq, hhalf, -⟩ | ⟨heq, hhalf, -⟩ <;> omega

/-- **Ties.** Another count that is as close has an odd significand. -/
theorem nearest_tie (whole : Nat) {y : Nat} (hy : y % spacing y = 0) (hne : y ≠ nearest whole 1)
    (heq : ((y : Int) - whole).natAbs = ((nearest whole 1 : Int) - whole).natAbs) :
    significand (nearest whole 1) % 2 = 0 ∧ significand y % 2 = 1 := by
  have hside := grid_side hy whole
  have hwhole := floorCount_add_mod whole
  have hrest := Nat.mod_lt whole (spacing_pos whole)
  have hfloor := significand_floorCount whole
  have hnext := significand_nextCount whole
  have hstep : nextCount whole = floorCount whole + spacing whole := rfl
  rcases nearest_cases whole with ⟨h, hhalf, heven⟩ | ⟨h, hhalf, hodd⟩ <;> rw [h] at hne heq ⊢
  · obtain rfl : y = nextCount whole := by omega
    have hbelow := heven (by omega)
    omega
  · obtain rfl : y = floorCount whole := by omega
    have hbelow := hodd (by omega)
    omega

/-- Rounding misses by at most half the distance of the neighbours. -/
theorem nearest_error (whole : Nat) :
    2 * ((nearest whole 1 : Int) - whole).natAbs ≤ spacing whole := by
  have hwhole := floorCount_add_mod whole
  have hrest := Nat.mod_lt whole (spacing_pos whole)
  have hnext : nextCount whole = floorCount whole + spacing whole := rfl
  rcases nearest_cases whole with ⟨heq, hhalf, -⟩ | ⟨heq, hhalf, -⟩ <;> omega

/-- Whole numbers that a significand can count are representable. -/
theorem ones_onGrid {m : Nat} (h : m ≤ significandLimit) :
    m * unitsPerOne % spacing (m * unitsPerOne) = 0 := by
  have hone : unitsPerOne = spacing (twoPow (fractionBits + 52)) := by
    rw [spacing, log2_twoPow, unitsPerOne, Nat.add_sub_cancel]
  rw [hone]
  exact mul_spacing_mod_spacing h _

/-! ## Nearest finite numbers -/

theorem Finite.natAbs_toInt (x : Finite) : x.toInt.natAbs = x.units := by
  rw [toInt]
  split <;> omega

/-- The number is a closest one to a value in units, and the even one of two. -/
structure Finite.Rounds (x : Finite) (value : Int) : Prop where
  closest : ∀ y : Finite, (x.toInt - value).natAbs ≤ (y.toInt - value).natAbs
  even : ∀ y : Finite, y.toInt ≠ x.toInt →
    (y.toInt - value).natAbs = (x.toInt - value).natAbs → significand x.units % 2 = 0

theorem Finite.rounds_toInt (x : Finite) : x.Rounds x.toInt where
  closest y := by omega
  even y hne heq := by omega

/-- A value is rounded to itself if some number has it. -/
theorem Finite.Rounds.eq_of_toInt_eq {x y : Finite} {value : Int} (h : x.Rounds value)
    (hy : y.toInt = value) : x.toInt = value := by
  have hclosest := h.closest y
  omega

/-- A whole number that a significand can count. -/
def Finite.ofWhole (m : Nat) (h : m ≤ significandLimit) : Finite where
  negative := false
  units := m * unitsPerOne
  onGrid := by
    refine ⟨ones_onGrid h, Nat.lt_of_le_of_lt (Nat.mul_le_mul_right unitsPerOne h) ?_⟩
    rw [significandLimit, unitsPerOne, twoPow_mul, limit]
    exact twoPow_lt (by decide)

theorem Finite.toInt_ofWhole {m : Nat} (h : m ≤ significandLimit) :
    (ofWhole m h).toInt = (m : Int) * unitsPerOne := by
  simp only [toInt, ofWhole, Bool.false_eq_true, if_false, Int.natCast_mul]

end JsonValidation.Binary64

namespace JsonValidation

open Binary64

/-- The exact value of an integer, in units. -/
def Integer.exact (n : Integer) : Int := n.val * unitsPerOne

namespace Integer

theorem exact_nonneg_iff (n : Integer) : 0 ≤ n.exact ↔ 0 ≤ n.val :=
  Int.mul_nonneg_iff_of_pos_right (Int.natCast_pos.mpr (twoPow_pos _))

/-- The nearest number lies on the side of zero on which the integer lies. -/
theorem toInt_toFinite (n : Integer) :
    n.toFinite.toInt = if n.val < 0 then -(n.units : Int) else n.units := by
  rw [Finite.toInt, toFinite]
  simp only [decide_eq_true_eq]

/-- The magnitude of an integer, in units. -/
def magnitude (n : Integer) : Nat := n.val.natAbs * unitsPerOne

theorem natAbs_exact (n : Integer) : n.exact.natAbs = n.magnitude := by
  rw [exact, Int.natAbs_mul, Int.natAbs_natCast, magnitude]

theorem units_toFinite (n : Integer) : n.toFinite.units = n.units := by simp only [toFinite]

theorem units_eq (n : Integer) : n.units = nearest n.magnitude 1 := by simp only [units, magnitude]

theorem units_closest (n : Integer) {y : Nat} (hy : y % spacing y = 0) :
    ((n.units : Int) - n.magnitude).natAbs ≤ ((y : Int) - n.magnitude).natAbs := by
  rw [units_eq]
  exact nearest_closest n.magnitude hy

/-- Signs do not matter for how far a number is from its nearest one. -/
theorem natAbs_toInt_sub_exact (n : Integer) :
    (n.toFinite.toInt - n.exact).natAbs = ((n.units : Int) - n.magnitude).natAbs := by
  have habs := n.natAbs_exact
  have hsign := n.exact_nonneg_iff
  rw [toInt_toFinite]
  split <;> omega

theorem closest (n : Integer) (y : Finite) :
    (n.toFinite.toInt - n.exact).natAbs ≤ (y.toInt - n.exact).natAbs := by
  have hclosest := n.units_closest y.onGrid.1
  have habs := n.natAbs_exact
  have hy := y.natAbs_toInt
  rw [natAbs_toInt_sub_exact]
  omega

/-- Another number that is as close has an odd significand. -/
theorem tie (n : Integer) {y : Finite} (hne : y.toInt ≠ n.toFinite.toInt)
    (heq : (y.toInt - n.exact).natAbs = (n.toFinite.toInt - n.exact).natAbs) :
    significand n.toFinite.units % 2 = 0 ∧ significand y.units % 2 = 1 := by
  have hclosest := n.units_closest y.onGrid.1
  have hzero := n.units_closest (y := 0) (Nat.zero_mod _)
  have habs := n.natAbs_exact
  have hsign := n.exact_nonneg_iff
  have hn := n.toInt_toFinite
  have hy := y.natAbs_toInt
  rw [natAbs_toInt_sub_exact] at heq
  -- the same count with the other sign is as far away only if both are zero
  have hunits : y.units ≠ n.units := by split at hn <;> omega
  have hsame : ((y.units : Int) - n.magnitude).natAbs = ((n.units : Int) - n.magnitude).natAbs := by
    omega
  rw [units_eq] at hunits hsame
  rw [units_toFinite, units_eq]
  exact nearest_tie n.magnitude y.onGrid.1 hunits hsame

/-- **Integers.** Exactly the binary64 number of an integer is a closest one, and the even one of two. -/
theorem rounds_iff (n : Integer) (x : Finite) :
    x.Rounds n.exact ↔ x.toInt = n.toFinite.toInt := by
  constructor
  · intro h
    have hle := h.closest n.toFinite
    have hge := n.closest x
    refine Decidable.byContradiction fun hne => ?_
    have heq : (x.toInt - n.exact).natAbs = (n.toFinite.toInt - n.exact).natAbs := by omega
    have heven := h.even n.toFinite (Ne.symm hne) heq.symm
    have hodd := (n.tie hne heq).2
    omega
  · intro h
    have hunits : x.units = n.toFinite.units := by
      rw [← x.natAbs_toInt, h, Finite.natAbs_toInt]
    refine ⟨fun y => ?_, fun y hne heq => ?_⟩
    · rw [h]
      exact n.closest y
    · rw [h] at hne heq
      rw [hunits]
      exact (n.tie hne heq).1

/-! ## Comparing an integer as the nearest number -/

variable (n : Integer)

/-- Rounding carries an integer at most onto a number that it does not reach. -/
theorem le_toFinite_iff (y : Finite) :
    y.toInt ≤ n.toFinite.toInt ↔ y.toInt ≤ n.exact ∨ y.Rounds n.exact := by
  have hclosest := n.closest y
  rw [rounds_iff]
  constructor
  · intro h
    by_cases hle : y.toInt ≤ n.exact
    · exact .inl hle
    · exact .inr (by omega)
  · rintro (h | h) <;> omega

theorem toFinite_le_iff (y : Finite) :
    n.toFinite.toInt ≤ y.toInt ↔ n.exact ≤ y.toInt ∨ y.Rounds n.exact := by
  have hclosest := n.closest y
  rw [rounds_iff]
  constructor
  · intro h
    by_cases hle : n.exact ≤ y.toInt
    · exact .inl hle
    · exact .inr (by omega)
  · rintro (h | h) <;> omega

/-- Integers that a significand can count are representable. -/
theorem toInt_toFinite_eq_exact (h : n.val.natAbs ≤ significandLimit) :
    n.toFinite.toInt = n.exact := by
  have hclosest := n.units_closest (y := n.magnitude) (ones_onGrid h)
  have hsame := n.natAbs_toInt_sub_exact
  omega

/-- Up to 64 bits, rounding misses by at most 1024. -/
theorem natAbs_toInt_sub_exact_le : (n.toFinite.toInt - n.exact).natAbs ≤ 1024 * unitsPerOne := by
  have herror := nearest_error n.magnitude
  have hval : n.val.natAbs < twoPow 64 := by
    show n.val.natAbs < 18446744073709551616
    have := n.lower; have := n.upper; omega
  have hlimit : twoPow 64 * unitsPerOne = twoPow (11 + fractionBits + 53) := by
    rw [unitsPerOne, twoPow_mul]
    congr 1
  have hmagnitude : n.magnitude < twoPow (11 + fractionBits + 53) :=
    Nat.lt_of_lt_of_eq (Nat.mul_lt_mul_of_pos_right hval (twoPow_pos _)) hlimit
  have hspacing := spacing_le_twoPow hmagnitude
  have hsplit : twoPow (11 + fractionBits) = 2048 * unitsPerOne := by
    have heleven : twoPow 11 = 2048 := rfl
    rw [← twoPow_mul, heleven, unitsPerOne]
  rw [natAbs_toInt_sub_exact, units_eq]
  omega

theorem units_pos_iff : 0 < n.units ↔ n.val ≠ 0 := by
  have hzero := n.units_closest (y := 0) (Nat.zero_mod _)
  have hone := n.units_closest (ones_onGrid (m := 1) (twoPow_pos 53))
  have hpos : 0 < unitsPerOne := twoPow_pos _
  rcases Nat.eq_zero_or_pos n.val.natAbs with h | h
  · have hmagnitude : n.magnitude = 0 := by rw [magnitude, h, Nat.zero_mul]
    omega
  · have hmagnitude : unitsPerOne ≤ n.magnitude := Nat.le_mul_of_pos_left _ h
    omega

/-- Rounding keeps the sign. -/
theorem toInt_toFinite_nonpos_iff : n.toFinite.toInt ≤ 0 ↔ n.val ≤ 0 := by
  have hpos := n.units_pos_iff
  rw [toInt_toFinite]
  split <;> omega

theorem toInt_toFinite_nonneg_iff : 0 ≤ n.toFinite.toInt ↔ 0 ≤ n.val := by
  have hpos := n.units_pos_iff
  rw [toInt_toFinite]
  split <;> omega

end Integer

/-! ## Values of numbers -/

namespace Number

/-- The exact value of a number, in units. -/
def exact : Number → Int
  | .int n => n.exact
  | .float x => x.toInt

/-- A binary64 number has this value. -/
def Representable (a : Number) : Prop := ∃ x : Finite, x.toInt = a.exact

theorem representable_float (x : Finite) : (float x).Representable := ⟨x, rfl⟩

theorem representable_int {n : Integer} (h : n.val.natAbs ≤ significandLimit) :
    (int n).Representable := ⟨n.toFinite, n.toInt_toFinite_eq_exact h⟩

/-- The value is a whole number. -/
def Whole (a : Number) : Prop := (unitsPerOne : Int) ∣ a.exact

theorem whole_int (n : Integer) : (int n).Whole := Int.dvd_mul_left _ _

theorem whole_ofWhole {m : Nat} (h : m ≤ significandLimit) : (float (.ofWhole m h)).Whole := by
  rw [Whole, exact, Finite.toInt_ofWhole]
  exact Int.dvd_mul_left _ _

end Number

end JsonValidation
