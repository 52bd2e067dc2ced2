import JsonValidation.Proofs.Outcomes
import JsonValidation.Proofs.Rounding
import JsonValidation.Proofs.SameOutcomes

/-!
# Which integers a number schema accepts

The checks of a number schema look at the nearest binary64 number. An integer of more than 53 bits may
be rounded on the way, so it is compared with the bounds as another integer.

* `NumberSettings.violation?_eq_none_iff`: what has to hold for a number to violate nothing.
* `NumberSettings.Admits`, `NumberSettings.AdmitsRounded`: an integer satisfies the constraints as it is,
  or where it is beyond a bound, the bound is the binary64 number nearest to it.
* `NumberSettings.ChecksInteger`, `NumberSettings.integers_checked_rounded`: the integers that a schema
  accepts. None is rejected that satisfies the constraints as it is.
-/

namespace JsonValidation

open Binary64

namespace Binary64

theorem finite_lt_iff {x y : Finite} : (finite x).lt (.finite y) ↔ x.toInt < y.toInt :=
  decide_eq_true_iff

theorem finite_le_zero_iff {x : Finite} : (finite x).le zero ↔ x.toInt ≤ 0 := decide_eq_true_iff

theorem zero_le_finite_iff {x : Finite} : zero.le (.finite x) ↔ 0 ≤ x.toInt := decide_eq_true_iff

end Binary64

namespace NumberSettings

theorem minViolation_eq_none_iff {c : Constraint Binary64} {n : Binary64} :
    minViolation c n = none ↔ ¬ n.lt c.value := by
  simp [minViolation]

theorem maxViolation_eq_none_iff {c : Constraint Binary64} {n : Binary64} :
    maxViolation c n = none ↔ ¬ c.value.lt n := by
  simp [maxViolation]

theorem positiveViolation_eq_none_iff {c : Constraint Unit} {n : Binary64} :
    positiveViolation c n = none ↔ ¬ n.le .zero := by
  simp [positiveViolation]

theorem negativeViolation_eq_none_iff {c : Constraint Unit} {n : Binary64} :
    negativeViolation c n = none ↔ ¬ Binary64.zero.le n := by
  simp [negativeViolation]

/-- A number violates nothing if it violates none of the constraints. -/
theorem violation?_eq_none_iff (settings : NumberSettings) (n : Binary64) :
    settings.violation? n = none ↔
      (∀ c, settings.min = some c → ¬ n.lt c.value) ∧
      (∀ c, settings.max = some c → ¬ c.value.lt n) ∧
      (∀ c, settings.positive = some c → ¬ n.le .zero) ∧
      (∀ c, settings.negative = some c → ¬ Binary64.zero.le n) := by
  simp only [violation?_eq_or, Option.or_eq_none_iff, Option.bind_eq_none_iff,
    minViolation_eq_none_iff, maxViolation_eq_none_iff, positiveViolation_eq_none_iff,
    negativeViolation_eq_none_iff]

/-! ## Integers -/

/-- The bounds of the settings are these finite numbers. -/
structure BoundedBy (settings : NumberSettings) (lo hi : Option Finite) : Prop where
  min_eq : settings.min.map Constraint.value = lo.map .finite
  max_eq : settings.max.map Constraint.value = hi.map .finite

/-- The integer is within the bounds and has the sign that is demanded. -/
structure Admits (settings : NumberSettings) (lo hi : Option Finite) (n : Integer) : Prop where
  lower : ∀ x, lo = some x → x.toInt ≤ n.exact
  upper : ∀ x, hi = some x → n.exact ≤ x.toInt
  positive : settings.positive.isSome → 0 < n.val
  negative : settings.negative.isSome → n.val < 0

/-- The integer satisfies the constraints after rounding, which can carry it onto a bound and keeps its
    sign. -/
structure AdmitsRounded (settings : NumberSettings) (lo hi : Option Finite) (n : Integer) : Prop where
  lower : ∀ x, lo = some x → x.toInt ≤ n.exact ∨ x.Rounds n.exact
  upper : ∀ x, hi = some x → n.exact ≤ x.toInt ∨ x.Rounds n.exact
  positive : settings.positive.isSome → 0 < n.val
  negative : settings.negative.isSome → n.val < 0

variable {settings : NumberSettings} {lo hi : Option Finite}

/-- What holds of a bound holds of the number that the bound is. -/
theorem forall_bound_iff {bound : Option (Constraint Binary64)} {number : Option Finite}
    (h : bound.map Constraint.value = number.map .finite) (P : Binary64 → Prop) :
    (∀ c, bound = some c → P c.value) ↔ ∀ x, number = some x → P (.finite x) := by
  cases bound with
  | none =>
    cases number with
    | none => simp only [reduceCtorEq, false_implies, implies_true]
    | some x => cases h
  | some c =>
    cases number with
    | none => cases h
    | some x =>
      have hc : c.value = .finite x := Option.some.inj h
      simp only [Option.some.injEq, forall_eq', hc]

theorem forall_flag_iff {flag : Option (Constraint Unit)} {P : Prop} :
    (∀ c, flag = some c → P) ↔ (flag.isSome → P) := by
  cases flag with
  | none => simp only [reduceCtorEq, false_implies, implies_true, Option.isSome_none, Bool.false_eq_true]
  | some c => simp only [Option.some.injEq, forall_eq', Option.isSome_some, true_implies]

theorem violation?_int_eq_none_iff (h : settings.BoundedBy lo hi) (n : Integer) :
    settings.violation? (Number.int n).toBinary64 = none ↔ settings.AdmitsRounded lo hi n := by
  have hlower : ∀ x : Finite, ¬ (Binary64.finite n.toFinite).lt (.finite x) ↔
      x.toInt ≤ n.exact ∨ x.Rounds n.exact := by
    intro x
    rw [finite_lt_iff, Int.not_lt, n.le_toFinite_iff]
  have hupper : ∀ x : Finite, ¬ (Binary64.finite x).lt (.finite n.toFinite) ↔
      n.exact ≤ x.toInt ∨ x.Rounds n.exact := by
    intro x
    rw [finite_lt_iff, Int.not_lt, n.toFinite_le_iff]
  have hpositive : ¬ (Binary64.finite n.toFinite).le .zero ↔ 0 < n.val := by
    rw [finite_le_zero_iff, n.toInt_toFinite_nonpos_iff, Int.not_le]
  have hnegative : ¬ Binary64.zero.le (.finite n.toFinite) ↔ n.val < 0 := by
    rw [zero_le_finite_iff, n.toInt_toFinite_nonneg_iff, Int.not_le]
  have hview : (Number.int n).toBinary64 = .finite n.toFinite := rfl
  rw [hview, violation?_eq_none_iff, forall_flag_iff, forall_flag_iff, hpositive, hnegative,
    forall_bound_iff h.min_eq fun b => ¬ (Binary64.finite n.toFinite).lt b,
    forall_bound_iff h.max_eq fun b => ¬ b.lt (.finite n.toFinite)]
  simp only [hlower, hupper]
  exact ⟨fun ⟨h₁, h₂, h₃, h₄⟩ => ⟨h₁, h₂, h₃, h₄⟩, fun ⟨h₁, h₂, h₃, h₄⟩ => ⟨h₁, h₂, h₃, h₄⟩⟩

/-- What a schema with these settings does with an integer. -/
structure ChecksInteger (settings : NumberSettings) (lo hi : Option Finite) (run : Routine)
    (n : Integer) (path : Path) : Prop where
  /-- The integer is accepted if and only if it satisfies the constraints after rounding, -/
  accepts_iff :
    (∃ o, run (some (.number (.int n))) path = .ok o) ↔ settings.AdmitsRounded lo hi n
  /-- and is returned unchanged then. -/
  unchanged : ∀ o, run (some (.number (.int n))) path = .ok o → o = .number (.int n)
  /-- So acceptance is right unless rounding carries the integer onto a bound that it is beyond. -/
  exact_iff :
    ((∃ o, run (some (.number (.int n))) path = .ok o) ↔ settings.Admits lo hi n) ↔
      (settings.AdmitsRounded lo hi n → settings.Admits lo hi n)
  /-- No integer is rejected that satisfies the constraints as it is, -/
  complete : settings.Admits lo hi n → run (some (.number (.int n))) path = .ok (.number (.int n))
  /-- and none is accepted that does not, if its value is that of a binary64 number -/
  sound : (Number.int n).Representable →
    ((∃ o, run (some (.number (.int n))) path = .ok o) ↔ settings.Admits lo hi n)
  /-- as it is for all integers up to `2^53`. -/
  representable : n.val.natAbs ≤ significandLimit → (Number.int n).Representable
  /-- All integers that are accepted miss a bound by at most 1024. -/
  near : (∃ o, run (some (.number (.int n))) path = .ok o) →
    (∀ x, lo = some x → x.toInt ≤ n.exact + 1024 * unitsPerOne) ∧
    ∀ x, hi = some x → n.exact ≤ x.toInt + 1024 * unitsPerOne

theorem Admits.rounded {n : Integer} (h : settings.Admits lo hi n) :
    settings.AdmitsRounded lo hi n where
  lower x hx := .inl (h.lower x hx)
  upper x hx := .inl (h.upper x hx)
  positive := h.positive
  negative := h.negative

theorem AdmitsRounded.exact {n : Integer} (h : settings.AdmitsRounded lo hi n)
    (hn : (Number.int n).Representable) : settings.Admits lo hi n := by
  obtain ⟨y, hy⟩ := hn
  have hexact : ∀ x : Finite, x.Rounds n.exact → x.toInt = n.exact := fun x hx =>
    hx.eq_of_toInt_eq hy
  refine ⟨fun x hx => ?_, fun x hx => ?_, h.positive, h.negative⟩
  · exact (h.lower x hx).elim id fun hround => Int.le_of_eq (hexact x hround)
  · exact (h.upper x hx).elim id fun hround => Int.le_of_eq (hexact x hround).symm

theorem AdmitsRounded.near {n : Integer} (h : settings.AdmitsRounded lo hi n) :
    (∀ x, lo = some x → x.toInt ≤ n.exact + 1024 * unitsPerOne) ∧
    ∀ x, hi = some x → n.exact ≤ x.toInt + 1024 * unitsPerOne := by
  have herror : ∀ x : Finite, x.Rounds n.exact → (x.toInt - n.exact).natAbs ≤ 1024 * unitsPerOne := by
    intro x hx
    rw [(n.rounds_iff x).mp hx]
    exact n.natAbs_toInt_sub_exact_le
  refine ⟨fun x hx => ?_, fun x hx => ?_⟩
  · rcases h.lower x hx with hle | hround
    · omega
    · have := herror x hround
      omega
  · rcases h.upper x hx with hle | hround
    · omega
    · have := herror x hround
      omega

/-- **Bounds.** A number schema, however it is run, checks integers after rounding them. -/
theorem integers_checked_rounded (hbounds : settings.BoundedBy lo hi) {s : Schema} {slot : Slot}
    (hs : s.node = .number slot settings) {run : Routine} (hrun : s.RunBy run) (n : Integer)
    (path : Path) : settings.ChecksInteger lo hi run n path := by
  have hok : ∀ o, run (some (.number (.int n))) path = .ok o ↔
      settings.AdmitsRounded lo hi n ∧ o = .number (.int n) := by
    intro o
    rw [hrun.eq_interpret, ← Schema.interpret_node, hs, Schema.interpret, interpret_eq_ok,
      ← violation?_int_eq_none_iff hbounds]
    constructor
    · rintro ⟨m, hm, hviolation, rfl⟩
      cases hm
      exact ⟨hviolation, rfl⟩
    · rintro ⟨hviolation, rfl⟩
      exact ⟨_, rfl, hviolation, rfl⟩
  have haccepts : (∃ o, run (some (.number (.int n))) path = .ok o) ↔
      settings.AdmitsRounded lo hi n :=
    ⟨fun ⟨o, ho⟩ => ((hok o).mp ho).1, fun h => ⟨_, (hok _).mpr ⟨h, rfl⟩⟩⟩
  exact
    { accepts_iff := haccepts
      unchanged := fun o ho => ((hok o).mp ho).2
      exact_iff := by
        rw [haccepts]
        exact ⟨Iff.mp, fun h => ⟨h, Admits.rounded⟩⟩
      complete := fun h => (hok _).mpr ⟨h.rounded, rfl⟩
      sound := fun hn => haccepts.trans ⟨fun h => h.exact hn, Admits.rounded⟩
      representable := Number.representable_int
      near := fun h => (haccepts.mp h).near }

/-- Numbers up to `2^53`. -/
def upToSignificands : NumberOptions where
  max := some (.finite (.ofWhole significandLimit (Nat.le_refl _)))

theorem boundedBy_upToSignificands : (ofOptions upToSignificands).BoundedBy none
    (some (.ofWhole significandLimit (Nat.le_refl _))) := ⟨rfl, rfl⟩

/-- The integer `2^53 + 1`. -/
def beyondSignificands : Integer where
  val := 9007199254740993

/-- It is halfway between two binary64 numbers, of which the bound is the even one. -/
theorem admitsRounded_beyondSignificands : (ofOptions upToSignificands).AdmitsRounded none
    (some (.ofWhole significandLimit (Nat.le_refl _))) beyondSignificands where
  lower _ hx := by cases hx
  upper _ hx := by
    cases hx
    rw [Integer.rounds_iff]
    decide +kernel
  positive hpositive := by cases hpositive
  negative hnegative := by cases hnegative

/-- A schema of numbers up to `2^53`, compiled. -/
def upToSignificandsRun : List Session.Step :=
  [.define "few" (.number upToSignificands), .compile "few"]

open Session (reached noPatterns) in
/-- `2^53 + 1` is accepted. -/
theorem integers_checked_rounded_beyond : ∃ s ∈ (reached noPatterns upToSignificandsRun).nodes,
    (s.validate (some (.number (.int beyondSignificands))) .root
      (reached noPatterns upToSignificandsRun).store).1 = .ok (.number (.int beyondSignificands)) := by
  have hs := List.mem_of_getElem? (l := (reached noPatterns upToSignificandsRun).nodes) (i := 0) rfl
  refine ⟨_, hs, ?_⟩
  have hchecks := integers_checked_rounded boundedBy_upToSignificands (s := _) rfl (.of_mem_nodes hs)
    beyondSignificands .root
  obtain ⟨o, ho⟩ := hchecks.accepts_iff.mpr admitsRounded_beyondSignificands
  rw [ho, hchecks.unchanged o ho]

/-- So the constraints are not those that integers satisfy exactly: `2^53 + 1` is beyond `2^53`. -/
theorem integer_beyond_maximum_accepted : ¬ ∀ (settings : NumberSettings) (lo hi : Option Finite),
    settings.BoundedBy lo hi → (∀ x, lo = some x → (Number.float x).Whole) →
    (∀ x, hi = some x → (Number.float x).Whole) →
    ∀ (s : Schema) (slot : Slot), s.node = .number slot settings → ∀ run : Routine, s.RunBy run →
    ∀ (n : Integer) (path : Path),
      (∃ o, run (some (.number (.int n))) path = .ok o) ↔ settings.Admits lo hi n := by
  intro h
  have hiff := h _ none _ boundedBy_upToSignificands (fun x hx => by cases hx)
    (fun x hx => Option.some.inj hx ▸ Number.whole_ofWhole _) (.number 0 _) 0 rfl _ .interpreted
    beyondSignificands .root
  have haccepted : (ofOptions upToSignificands).interpret (some (.number (.int beyondSignificands)))
      .root = .ok (.number (.int beyondSignificands)) :=
    interpret_eq_ok.mpr ⟨_, rfl, (violation?_int_eq_none_iff boundedBy_upToSignificands _).mpr
      admitsRounded_beyondSignificands, rfl⟩
  have hadmits := hiff.mp ⟨_, haccepted⟩
  exact absurd (hadmits.upper _ rfl) (by decide +kernel)

end NumberSettings

end JsonValidation
