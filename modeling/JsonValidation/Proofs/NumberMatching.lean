import JsonValidation.Proofs.Outcomes
import JsonValidation.Proofs.Rounding
import JsonValidation.Proofs.SameOutcomes

/-!
# Which numbers a literal matches

Two integers are compared in words and two binary64 numbers as they are, both exactly. Between an
integer and a binary64 number the integer is rounded first, so that a number matches more than its own
value as soon as integers have more than 53 bits, and matching is no equivalence.

* `Number.equals_int`, `Number.equals_float`, `Number.equals_int_float`: the comparison for each pair of
  representations.
* `Number.equals_iff`: exactly the numbers of the same value are equal, and an integer and the binary64
  number nearest to it.
* `Number.equals_iff_of_representable`: where no rounding takes place, this is equality of values.
* `Number.equals_trans`: where equality does not pass on.
* `MatchesNumbers`, `literals_match_by_rounding`: the same for literals and for schemas pinned to them.
-/

namespace JsonValidation

open Binary64

namespace Integer

theorem signed?_eq_some_iff {n : Integer} {x : Int} :
    n.signed? = some x ↔ n.val ≤ 9223372036854775807 ∧ n.val = x := by
  rw [signed?, Option.ite_some_none_eq_some]
  omega

theorem unsigned?_eq_some_iff {n : Integer} {x : Nat} :
    n.unsigned? = some x ↔ 0 ≤ n.val ∧ n.val = x := by
  rw [unsigned?, Option.ite_some_none_eq_some]
  omega

theorem exact_eq_iff {n m : Integer} : n.exact = m.exact ↔ n.val = m.val :=
  Int.mul_eq_mul_right_iff (Int.ne_of_gt (Int.natCast_pos.mpr (twoPow_pos _)))

theorem ext_val {n m : Integer} (h : n.val = m.val) : n = m := by
  cases n
  cases m
  cases h
  rfl

end Integer

namespace Number

/-- The first number is an integer, and the second the binary64 number nearest to it. -/
def RoundsTo : Number → Number → Prop
  | .int n, .float x => x.Rounds n.exact
  | _, _ => False

/-! ## Comparing two numbers -/

theorem equals_int {n m : Integer} : (int n).equals (.int m) ↔ n.val = m.val := by
  rw [equals]
  split
  · rename_i x y hx hy
    rw [(Integer.signed?_eq_some_iff.mp hx).2, (Integer.signed?_eq_some_iff.mp hy).2, beq_iff_eq]
  · rename_i hsigned
    have hlarge : ¬ (n.val ≤ 9223372036854775807 ∧ m.val ≤ 9223372036854775807) := fun h =>
      hsigned n.val m.val (Integer.signed?_eq_some_iff.mpr ⟨h.1, rfl⟩)
        (Integer.signed?_eq_some_iff.mpr ⟨h.2, rfl⟩)
    split
    · rename_i x y hx hy
      rw [(Integer.unsigned?_eq_some_iff.mp hx).2, (Integer.unsigned?_eq_some_iff.mp hy).2, beq_iff_eq]
      omega
    · -- one exceeds a signed word and the other is negative, so their signs keep them apart
      rename_i hunsigned
      have hnegative : ¬ (0 ≤ n.val ∧ 0 ≤ m.val) := fun h =>
        hunsigned n.val.toNat m.val.toNat
          (Integer.unsigned?_eq_some_iff.mpr ⟨h.1, (Int.toNat_of_nonneg h.1).symm⟩)
          (Integer.unsigned?_eq_some_iff.mpr ⟨h.2, (Int.toNat_of_nonneg h.2).symm⟩)
      have hn := n.toInt_toFinite_nonneg_iff
      have hm := m.toInt_toFinite_nonneg_iff
      rw [beq_iff_eq, toFinite, toFinite]
      omega

theorem equals_float {x y : Finite} : (float x).equals (.float y) ↔ x.toInt = y.toInt := beq_iff_eq

/-- A binary64 number fits no word, so an integer is rounded before it is compared with one. -/
theorem equals_int_float {n : Integer} {x : Finite} :
    (int n).equals (.float x) ↔ x.Rounds n.exact := by
  have hrounded : (int n).equals (.float x) = (n.toFinite.toInt == x.toInt) := by
    simp only [equals, signed?, unsigned?, toFinite]
    cases n.signed? <;> cases n.unsigned? <;> rfl
  rw [hrounded, beq_iff_eq, n.rounds_iff, eq_comm]

theorem equals_float_int {n : Integer} {x : Finite} :
    (float x).equals (.int n) ↔ x.Rounds n.exact := by
  rw [n.rounds_iff]
  exact beq_iff_eq

theorem equals_comm (a b : Number) : a.equals b ↔ b.equals a := by
  cases a with
  | int n =>
    cases b with
    | int m => rw [equals_int, equals_int, eq_comm]
    | float y => rw [equals_int_float, equals_float_int]
  | float x =>
    cases b with
    | int m => rw [equals_float_int, equals_int_float]
    | float y => rw [equals_float, equals_float, eq_comm]

/-- Numbers of the same value are equal, and so are an integer and its nearest binary64 number. -/
theorem equals_iff (a b : Number) :
    a.equals b ↔ a.exact = b.exact ∨ a.RoundsTo b ∨ b.RoundsTo a := by
  have hself : ∀ (n : Integer) (x : Finite), n.exact = x.toInt → x.Rounds n.exact :=
    fun n x h => h ▸ x.rounds_toInt
  cases a with
  | int n =>
    cases b with
    | int m => simp only [equals_int, exact, Integer.exact_eq_iff, RoundsTo, or_false]
    | float y =>
      simp only [equals_int_float, exact, RoundsTo, or_false]
      exact (or_iff_right_of_imp (hself n y)).symm
  | float x =>
    cases b with
    | int m =>
      simp only [equals_float_int, exact, RoundsTo, false_or]
      exact (or_iff_right_of_imp fun h => hself m x h.symm).symm
    | float y => simp only [equals_float, exact, RoundsTo, or_false]

theorem RoundsTo.exact_eq {a b : Number} (h : a.RoundsTo b) (ha : a.Representable) :
    a.exact = b.exact := by
  cases a with
  | float _ => exact False.elim h
  | int n =>
    cases b with
    | int _ => exact False.elim h
    | float x =>
      obtain ⟨y, hy⟩ := ha
      exact (Finite.Rounds.eq_of_toInt_eq h hy).symm

/-- Equality is equality of values as soon as both values are those of binary64 numbers. -/
theorem equals_iff_of_representable {a b : Number} (ha : a.Representable) (hb : b.Representable) :
    a.equals b ↔ a.exact = b.exact := by
  rw [equals_iff]
  constructor
  · rintro (h | h | h)
    · exact h
    · exact h.exact_eq ha
    · exact (h.exact_eq hb).symm
  · exact .inl

theorem equals_self (a : Number) : a.equals a := (equals_iff a a).mpr (.inl rfl)

/-- Equality passes on, but not from one integer over a binary64 number to another integer. -/
theorem equals_trans {a b c : Number} (hab : a.equals b) (hbc : b.equals c) :
    a.equals c ∨ ∃ n m x, a = .int n ∧ b = .float x ∧ c = .int m ∧ n.val ≠ m.val := by
  cases b with
  | int k =>
    left
    cases a with
    | int n =>
      obtain rfl := Integer.ext_val (equals_int.mp hab)
      exact hbc
    | float x =>
      cases c with
      | int m =>
        obtain rfl := Integer.ext_val (equals_int.mp hbc)
        exact hab
      | float z =>
        have hx := (k.rounds_iff x).mp (equals_float_int.mp hab)
        have hz := (k.rounds_iff z).mp (equals_int_float.mp hbc)
        exact equals_float.mpr (hx.trans hz.symm)
  | float y =>
    cases a with
    | int n =>
      have hy := equals_int_float.mp hab
      cases c with
      | int m =>
        by_cases hnm : n.val = m.val
        · exact .inl (equals_int.mpr hnm)
        · exact .inr ⟨n, m, y, rfl, rfl, rfl, hnm⟩
      | float z =>
        left
        rw [equals_int_float, n.rounds_iff, ← equals_float.mp hbc]
        exact (n.rounds_iff y).mp hy
    | float x =>
      left
      cases c with
      | int m =>
        rw [equals_float_int, m.rounds_iff, equals_float.mp hab]
        exact (m.rounds_iff y).mp (equals_float_int.mp hbc)
      | float z => exact equals_float.mpr ((equals_float.mp hab).trans (equals_float.mp hbc))

end Number

/-! ## Literals -/

/-- How the literal of a number matches numbers. -/
structure MatchesNumbers (a : Number) : Prop where
  /-- The literal matches the numbers of its value. Besides, an integer matches the binary64 number that
      is nearest to it, and the other way round. -/
  iff_rounds : ∀ b : Number, (Literal.number a).accepts (.number b) ↔
    a.exact = b.exact ∨ a.RoundsTo b ∨ b.RoundsTo a
  /-- So matching tells the values apart unless one number is the other one rounded to another value, -/
  exact_iff : ∀ b : Number, ((Literal.number a).accepts (.number b) ↔ a.exact = b.exact) ↔
    (a.RoundsTo b ∨ b.RoundsTo a → a.exact = b.exact)
  /-- which does not happen between two integers, and where both values are those of binary64 numbers, -/
  integers : ∀ n m : Integer, a = .int n →
    ((Literal.number a).accepts (.number (.int m)) ↔ n.val = m.val)
  representable : ∀ b : Number, a.Representable → b.Representable →
    ((Literal.number a).accepts (.number b) ↔ a.exact = b.exact)
  /-- as all integers up to `2^53` are. -/
  representable_int : ∀ n : Integer, a = .int n → n.val.natAbs ≤ significandLimit → a.Representable
  representable_float : ∀ x : Finite, a = .float x → a.Representable
  refl : (Literal.number a).accepts (.number a)
  symm : ∀ b : Number,
    (Literal.number a).accepts (.number b) ↔ (Literal.number b).accepts (.number a)
  /-- Two numbers match each other if both match this one, except for two integers -/
  trans : ∀ b c : Number, (Literal.number b).accepts (.number a) →
    (Literal.number a).accepts (.number c) → (Literal.number b).accepts (.number c) ∨
      ∃ n m x, b = .int n ∧ a = .float x ∧ c = .int m ∧ n.val ≠ m.val
  /-- to which this one is the nearest binary64 number. -/
  not_trans : ∀ n m : Integer, n.val ≠ m.val → (Number.int n).RoundsTo a → (Number.int m).RoundsTo a →
    (Literal.number (.int n)).accepts (.number a) ∧ (Literal.number a).accepts (.number (.int m)) ∧
    ¬ (Literal.number (.int n)).accepts (.number (.int m))
  /-- A schema pinned to the number, however it is run, accepts the numbers that the literal matches, and
      returns them unchanged. -/
  pinned : ∀ (s : Schema) (slot : Slot) (r : Routine), s.node = .literal slot (.number a) →
    s.RunBy r → ∀ input path o, r input path = .ok o ↔
      ∃ b, input = some (.number b) ∧ (Literal.number a).accepts (.number b) ∧ o = .value (.number b)

/-- **Literals.** Numbers are matched by their values, integers being rounded where they meet binary64
    numbers. -/
theorem literals_match_by_rounding (a : Number) : MatchesNumbers a where
  iff_rounds := a.equals_iff
  exact_iff b := by
    have hiff : (Literal.number a).accepts (.number b) ↔
        a.exact = b.exact ∨ a.RoundsTo b ∨ b.RoundsTo a := a.equals_iff b
    rw [hiff]
    exact or_iff_left_iff_imp
  integers n m ha := by
    subst ha
    exact Number.equals_int
  representable b := Number.equals_iff_of_representable
  representable_int n ha hn := ha ▸ Number.representable_int hn
  representable_float x ha := ha ▸ Number.representable_float x
  refl := a.equals_self
  symm := a.equals_comm
  trans b c := Number.equals_trans
  not_trans n m hne hn hm := ⟨(Number.equals_iff _ _).mpr (.inr (.inl hn)),
    (Number.equals_iff _ _).mpr (.inr (.inr hm)), fun h => hne (Number.equals_int.mp h)⟩
  pinned s slot r hs hr input path o := by
    rw [hr.eq_interpret, ← Schema.interpret_node, hs, Schema.interpret, Literal.validate_eq_ok]
    constructor
    · rintro ⟨v, hv, haccepts, ho⟩
      cases v with
      | number b => exact ⟨b, hv, haccepts, ho⟩
      | _ => cases haccepts
    · rintro ⟨b, hb, haccepts, ho⟩
      exact ⟨.number b, hb, haccepts, ho⟩

/-- The literal `9007199254740993` matches `9007199254740992.0`. -/
theorem literal_matches_neighbour : ¬ ∀ a b : Number, a.Whole → b.Whole →
    ((Literal.number a).accepts (.number b) ↔ a.exact = b.exact) := by
  intro h
  have hmatch := h (.int ⟨9007199254740993, by decide, by decide⟩)
    (.float (.ofWhole 9007199254740992 (by decide))) (Number.whole_int _) (Number.whole_ofWhole _)
  have hequal := hmatch.mp (by decide +kernel)
  exact absurd hequal (by decide +kernel)

end JsonValidation
