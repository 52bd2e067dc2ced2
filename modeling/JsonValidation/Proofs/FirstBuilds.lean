import JsonValidation.Cache.Bank

/-!
# Banks of caches keep what was built first

A bank is changed step by step, and copying makes the caches of a bank depend on each other. What a
cache holds can be told from the steps alone. The history of a cache consists of the requests to the
cache itself, and of the history that the cache which it copies had at that time.

* `Requested`: the requests in the history of a cache.
* `cacheAt_succ`, `cacheAt_copy`, `cacheAt_add`: what one step of a run makes of every cache.
* `FirstBuild`: the builder ran for the first request of a history and for no other.
* `explained`: at every time a cache is empty if its history is, and else holds the first build.
* `cacheAt_later`: what a cache holds at any later time, from the requests to itself.
* `first_builds_kept`: all runs of a bank.
-/

namespace JsonValidation.Cache

variable {ρ : Type}

/-- What asking a cache shows and leaves behind: the result that is held, or else the new one. -/
theorem getOrBuild_eq (c : Cache ρ) (build : Unit → ρ) :
    c.getOrBuild build =
      ⟨c.held.getD (build ()), ⟨some (c.held.getD (build ()))⟩, c.held.isNone⟩ := by
  obtain ⟨held⟩ := c
  cases held with
  | none => exact getOrBuild_of_empty rfl build
  | some r => exact getOrBuild_of_populated rfl build

namespace Bank

/-! ## Histories -/

/-- The result that a step asks cache `i` for. -/
def Step.request? (i : Nat) : Step ρ → Option ρ
  | .ask position result => if position = i then some result else none
  | .copy _ => none
  | .add => none

theorem Step.request?_eq_some_iff {i : Nat} {s : Step ρ} {r : ρ} :
    s.request? i = some r ↔ s = .ask i r := by
  cases s with
  | ask position result =>
    by_cases h : position = i
    · subst h
      simp [request?]
    · simp [request?, h]
  | copy position => simp [request?]
  | add => simp [request?]

/-- The cache that a step asks or copies. -/
def Step.target? : Step ρ → Option Nat
  | .ask position _ => some position
  | .copy position => some position
  | .add => none

/-- Whether a step appends a cache. -/
def Step.appends : Step ρ → Bool
  | .ask .. => false
  | _ => true

/-- The number of caches before the step at a time. -/
def sizeAt (steps : List (Step ρ)) (t : Nat) : Nat := 1 + (steps.take t).countP Step.appends

/-- Before time `t` the history of cache `i` has a request for `result` at time `s`: one that was made to
    the cache itself, or to the cache that it was copied from, before it was copied. -/
inductive Requested (steps : List (Step ρ)) : (t i s : Nat) → (result : ρ) → Prop
  | itself {t i s : Nat} {result : ρ} (earlier : s < t) (step : steps[s]? = some (.ask i result)) :
      Requested steps t i s result
  | origin {t k j s : Nat} {result : ρ} (earlier : k < t) (step : steps[k]? = some (.copy j))
      (request : Requested steps k j s result) : Requested steps t (sizeAt steps k) s result

/-- The bank before the step at a time of a run. -/
def bankAt (b : Bank ρ) (stops : List (Bank ρ × Effect ρ)) (t : Nat) : Option (Bank ρ) :=
  (b :: stops.map Prod.fst)[t]?

theorem bankAt_succ (b : Bank ρ) (stops : List (Bank ρ × Effect ρ)) (t : Nat) :
    bankAt b stops (t + 1) = stops[t]?.map Prod.fst := by
  rw [bankAt, List.getElem?_cons_succ, List.getElem?_map]

/-- The cache at a position before the step at a time of a run. -/
def cacheAt (stops : List (Bank ρ × Effect ρ)) (t i : Nat) : Option (Cache ρ) :=
  (bankAt {} stops t).bind (·.caches[i]?)

/-! ## Runs, step by step -/

/-- All that a step can do. -/
theorem step_cases {b b' : Bank ρ} {s : Step ρ} {e : Effect ρ} (h : b.step s = some (b', e)) :
    (∃ i result c, s = .ask i result ∧ b.caches[i]? = some c ∧
      e = .answered c.held.isNone (c.held.getD result) ∧
      b'.caches = b.caches.set i ⟨some (c.held.getD result)⟩) ∨
    (∃ i c, s = .copy i ∧ b.caches[i]? = some c ∧ e = .appended ∧ b'.caches = b.caches ++ [c]) ∨
    (s = .add ∧ e = .appended ∧ b'.caches = b.caches ++ [⟨none⟩]) := by
  cases s with
  | ask i result =>
    obtain ⟨c, hc, heq⟩ := Option.bind_eq_some_iff.mp h
    rw [getOrBuild_eq] at heq
    cases heq
    exact .inl ⟨i, result, c, rfl, hc, rfl, rfl⟩
  | copy i =>
    obtain ⟨c, hc, heq⟩ := Option.bind_eq_some_iff.mp h
    cases heq
    exact .inr (.inl ⟨i, c, rfl, hc, rfl, rfl⟩)
  | add =>
    cases h
    exact .inr (.inr ⟨rfl, rfl, rfl⟩)

/-- Every step of a run is made by the bank that the steps before it left. -/
theorem run_eq_some {b : Bank ρ} {steps : List (Step ρ)} {stops : List (Bank ρ × Effect ρ)}
    (h : b.run steps = some stops) : stops.length = steps.length ∧
      ∀ t s, steps[t]? = some s → ∃ bt stop, bankAt b stops t = some bt ∧ stops[t]? = some stop ∧
        bt.step s = some stop := by
  induction steps generalizing b stops with
  | nil =>
    cases h
    exact ⟨rfl, fun t s hs => by cases hs⟩
  | cons first rest ih =>
    obtain ⟨stop, hstop, h⟩ := Option.bind_eq_some_iff.mp h
    obtain ⟨later, hlater, h⟩ := Option.bind_eq_some_iff.mp h
    cases h
    obtain ⟨hlength, hsteps⟩ := ih hlater
    refine ⟨by simp [hlength], fun t s hs => ?_⟩
    cases t with
    | zero =>
      cases hs
      exact ⟨b, stop, rfl, rfl, hstop⟩
    | succ t => exact hsteps t s hs

theorem length_step {b b' : Bank ρ} {s : Step ρ} {e : Effect ρ} (h : b.step s = some (b', e)) :
    b'.caches.length = b.caches.length + if s.appends then 1 else 0 := by
  rcases step_cases h with ⟨i, result, c, rfl, -, -, hcaches⟩ | ⟨i, c, rfl, -, -, hcaches⟩ |
    ⟨rfl, -, hcaches⟩ <;> simp [hcaches, Step.appends]

/-- A step can be made if and only if the cache exists that it asks or copies. -/
theorem exists_step_iff (b : Bank ρ) (s : Step ρ) :
    (∃ stop, b.step s = some stop) ↔ ∀ i, s.target? = some i → i < b.caches.length := by
  have hexists : ∀ i (f : Cache ρ → Bank ρ × Effect ρ),
      (∃ stop, (b.caches[i]?.bind fun c => some (f c)) = some stop) ↔ i < b.caches.length := by
    intro i f
    cases hc : b.caches[i]? with
    | none => exact iff_of_false (by simp) (Nat.not_lt.mpr (List.getElem?_eq_none_iff.mp hc))
    | some c => exact iff_of_true ⟨_, rfl⟩ (List.getElem?_eq_some_iff.mp hc).1
  cases s with
  | ask i result => exact (hexists i _).trans (by simp [Step.target?])
  | copy i => exact (hexists i _).trans (by simp [Step.target?])
  | add => simp [step, Step.target?]

/-- Steps can be made if and only if the caches that they ask or copy exist by then. -/
theorem exists_run_iff (b : Bank ρ) (steps : List (Step ρ)) :
    (∃ stops, b.run steps = some stops) ↔ ∀ t s i, steps[t]? = some s → s.target? = some i →
      i < b.caches.length + (steps.take t).countP Step.appends := by
  induction steps generalizing b with
  | nil => simp [run]
  | cons first rest ih =>
    have hcount : ∀ t, ((first :: rest).take (t + 1)).countP Step.appends =
        (if first.appends then 1 else 0) + (rest.take t).countP Step.appends := fun t => by
      rw [List.take_succ_cons, List.countP_cons, Nat.add_comm]
    constructor
    · rintro ⟨stops, h⟩ t s i hs hi
      obtain ⟨⟨b', e⟩, hstop, h⟩ := Option.bind_eq_some_iff.mp h
      obtain ⟨later, hlater, -⟩ := Option.bind_eq_some_iff.mp h
      cases t with
      | zero =>
        cases hs
        exact (exists_step_iff b first).mp ⟨_, hstop⟩ i hi
      | succ t =>
        have hlt := (ih b').mp ⟨later, hlater⟩ t s i hs hi
        rw [length_step hstop] at hlt
        rw [hcount]
        omega
    · intro h
      obtain ⟨⟨b', e⟩, hstop⟩ := (exists_step_iff b first).mpr fun i hi => h 0 first i rfl hi
      obtain ⟨later, hlater⟩ := (ih b').mpr fun t s i hs hi => by
        have hlt := h (t + 1) s i hs hi
        rw [hcount] at hlt
        rw [length_step hstop]
        omega
      exact ⟨(b', e) :: later, Option.bind_eq_some_iff.mpr
        ⟨_, hstop, Option.bind_eq_some_iff.mpr ⟨_, hlater, rfl⟩⟩⟩

section Run

variable {steps : List (Step ρ)} {stops : List (Bank ρ × Effect ρ)} {t i j : Nat} {s : Step ρ}
  {c : Cache ρ} {b : Bank ρ}

theorem sizeAt_succ (hs : steps[t]? = some s) :
    sizeAt steps (t + 1) = sizeAt steps t + if s.appends then 1 else 0 := by
  rw [sizeAt, List.take_add_one, hs, List.countP_append, sizeAt, Nat.add_assoc]
  simp [List.countP_cons]

theorem sizeAt_mono (steps : List (Step ρ)) {t t' : Nat} (h : t ≤ t') :
    sizeAt steps t ≤ sizeAt steps t' :=
  Nat.add_le_add_left ((List.take_sublist_take_left h).countP_le) 1

variable (hrun : ({} : Bank ρ).run steps = some stops)

include hrun

/-- The bank has as many caches as the steps so far have appended. -/
theorem length_bankAt (hb : bankAt {} stops t = some b) : b.caches.length = sizeAt steps t := by
  obtain ⟨hlength, hsteps⟩ := run_eq_some hrun
  induction t generalizing b with
  | zero =>
    cases hb
    rfl
  | succ t ih =>
    rw [bankAt_succ] at hb
    obtain ⟨stop, hstop, rfl⟩ := Option.map_eq_some_iff.mp hb
    have ht : t < steps.length := hlength ▸ (List.getElem?_eq_some_iff.mp hstop).1
    obtain ⟨bt, stop', hbt, hstop', hstep⟩ := hsteps t steps[t] (List.getElem?_eq_getElem ht)
    cases hstop.symm.trans hstop'
    rw [length_step hstep, ih hbt, sizeAt_succ (List.getElem?_eq_getElem ht)]

/-- A step of a run is made by the bank before it and leaves the bank after it. -/
theorem step_at (hs : steps[t]? = some s) : ∃ b b' e, bankAt {} stops t = some b ∧
    bankAt {} stops (t + 1) = some b' ∧ stops[t]? = some (b', e) ∧ b.step s = some (b', e) ∧
    b.caches.length = sizeAt steps t := by
  obtain ⟨b, ⟨b', e⟩, hb, hstop, hstep⟩ := (run_eq_some hrun).2 t s hs
  refine ⟨b, b', e, hb, ?_, hstop, hstep, length_bankAt hrun hb⟩
  rw [bankAt_succ, hstop]
  rfl

/-- There are as many caches as the steps so far have appended. -/
theorem exists_cacheAt_iff :
    (∃ c, cacheAt stops t i = some c) ↔ t ≤ steps.length ∧ i < sizeAt steps t := by
  constructor
  · rintro ⟨c, hc⟩
    obtain ⟨b, hb, hi⟩ := Option.bind_eq_some_iff.mp hc
    have ht := (List.getElem?_eq_some_iff.mp hb).1
    have hi := (List.getElem?_eq_some_iff.mp hi).1
    rw [length_bankAt hrun hb] at hi
    rw [List.length_cons, List.length_map, (run_eq_some hrun).1] at ht
    exact ⟨Nat.le_of_lt_succ ht, hi⟩
  · rintro ⟨ht, hi⟩
    have hlt : t < (({} : Bank ρ) :: stops.map Prod.fst).length := by
      rw [List.length_cons, List.length_map, (run_eq_some hrun).1]
      omega
    have hb : bankAt {} stops t = some _ := List.getElem?_eq_getElem hlt
    rw [← length_bankAt hrun hb] at hi
    exact ⟨_, Option.bind_eq_some_iff.mpr ⟨_, hb, List.getElem?_eq_getElem hi⟩⟩

/-- What is shown for a request. -/
theorem answer_at {result : ρ} (hs : steps[t]? = some (.ask i result)) :
    ∃ c b, cacheAt stops t i = some c ∧
      stops[t]? = some (b, .answered c.held.isNone (c.held.getD result)) := by
  obtain ⟨b, b', e, hb, -, hstop, hstep, -⟩ := step_at hrun hs
  rcases step_cases hstep with ⟨i', result', c, heq, hc, rfl, -⟩ | ⟨i', c, heq, -⟩ | ⟨heq, -⟩ <;>
    cases heq
  exact ⟨c, b', Option.bind_eq_some_iff.mpr ⟨b, hb, hc⟩, hstop⟩

/-- A step changes a cache only if it asks an empty one. -/
theorem cacheAt_succ (hs : steps[t]? = some s) (hc : cacheAt stops t i = some c) :
    cacheAt stops (t + 1) i = some ⟨c.held.or (s.request? i)⟩ := by
  obtain ⟨b, b', e, hb, hb', -, hstep, -⟩ := step_at hrun hs
  obtain ⟨b₁, hb₁, hi⟩ := Option.bind_eq_some_iff.mp hc
  cases hb.symm.trans hb₁
  have hlt := (List.getElem?_eq_some_iff.mp hi).1
  refine Option.bind_eq_some_iff.mpr ⟨b', hb', ?_⟩
  rcases step_cases hstep with ⟨j, result, d, rfl, hd, -, hcaches⟩ | ⟨j, d, rfl, hd, -, hcaches⟩ |
    ⟨rfl, -, hcaches⟩
  · rw [hcaches]
    by_cases hji : j = i
    · subst hji
      cases hi.symm.trans hd
      rw [List.getElem?_set_self hlt, Step.request?, if_pos rfl]
      cases c.held <;> rfl
    · rw [List.getElem?_set_ne hji, hi, Step.request?, if_neg hji, Option.or_none]
  · rw [hcaches, List.getElem?_append_left hlt, hi, Step.request?, Option.or_none]
  · rw [hcaches, List.getElem?_append_left hlt, hi, Step.request?, Option.or_none]

/-- A copy holds what the cache holds that is copied. -/
theorem cacheAt_copy (hs : steps[t]? = some (.copy j)) : ∃ c, cacheAt stops t j = some c ∧
    cacheAt stops (t + 1) (sizeAt steps t) = some c := by
  obtain ⟨b, b', e, hb, hb', -, hstep, hsize⟩ := step_at hrun hs
  rcases step_cases hstep with ⟨i', result', c, heq, -⟩ | ⟨i', c, heq, hc, -, hcaches⟩ | ⟨heq, -⟩ <;>
    cases heq
  refine ⟨c, Option.bind_eq_some_iff.mpr ⟨b, hb, hc⟩, Option.bind_eq_some_iff.mpr ⟨b', hb', ?_⟩⟩
  rw [hcaches, ← hsize, List.getElem?_concat_length]

/-- A new cache is empty. -/
theorem cacheAt_add (hs : steps[t]? = some .add) :
    cacheAt stops (t + 1) (sizeAt steps t) = some ⟨none⟩ := by
  obtain ⟨b, b', e, hb, hb', -, hstep, hsize⟩ := step_at hrun hs
  rcases step_cases hstep with ⟨i', result', c, heq, -⟩ | ⟨i', c, heq, -⟩ | ⟨-, -, hcaches⟩
  · cases heq
  · cases heq
  · refine Option.bind_eq_some_iff.mpr ⟨b', hb', ?_⟩
    rw [hcaches, ← hsize, List.getElem?_concat_length]

/-! ## Requests in a history -/

omit hrun in
theorem Requested.lt {r : ρ} {u : Nat} (h : Requested steps t i u r) : u < t := by
  induction h with
  | itself earlier _ => exact earlier
  | origin earlier _ _ ih => exact Nat.lt_trans ih earlier

omit hrun in
theorem Requested.mono {r : ρ} {u t' : Nat} (h : Requested steps t i u r) (htt' : t ≤ t') :
    Requested steps t' i u r := by
  cases h with
  | itself earlier step => exact .itself (Nat.lt_of_lt_of_le earlier htt') step
  | origin earlier step request => exact .origin (Nat.lt_of_lt_of_le earlier htt') step request

/-- What a step asks or copies is there. -/
theorem target_lt (hs : steps[t]? = some s) (hi : s.target? = some i) : i < sizeAt steps t :=
  (exists_run_iff {} steps).mp ⟨stops, hrun⟩ t s i hs hi

omit hrun in
/-- One step adds to the history of a cache that is there at most a request to the cache itself. -/
theorem requested_succ_iff (hs : steps[t]? = some s) (hi : i < sizeAt steps t) {u : Nat} {r : ρ} :
    Requested steps (t + 1) i u r ↔ Requested steps t i u r ∨ (u = t ∧ s = .ask i r) := by
  constructor
  · intro h
    cases h with
    | itself earlier step =>
      rcases Nat.lt_or_eq_of_le (Nat.le_of_lt_succ earlier) with hlt | rfl
      · exact .inl (.itself hlt step)
      · exact .inr ⟨rfl, Option.some.inj (hs.symm.trans step)⟩
    | @origin _ k j _ _ earlier step request =>
      rcases Nat.lt_or_eq_of_le (Nat.le_of_lt_succ earlier) with hlt | rfl
      · exact .inl (.origin hlt step request)
      · exact absurd hi (Nat.lt_irrefl _)
  · rintro (h | ⟨rfl, rfl⟩)
    · exact h.mono (Nat.le_succ t)
    · exact .itself (Nat.lt_succ_self u) hs

/-- The history of a cache that a step appends is that of the cache which it copies. -/
theorem requested_appended_iff {u : Nat} {r : ρ} : Requested steps (t + 1) (sizeAt steps t) u r ↔
    ∃ j, steps[t]? = some (.copy j) ∧ Requested steps t j u r := by
  constructor
  · intro h
    generalize hi : sizeAt steps t = i at h
    cases h with
    | itself earlier step =>
      -- the cache was not there yet when it was asked
      have hlt := target_lt hrun step rfl
      have hle := sizeAt_mono steps (Nat.le_of_lt_succ earlier)
      omega
    | @origin _ k j _ _ earlier step request =>
      rcases Nat.lt_or_eq_of_le (Nat.le_of_lt_succ earlier) with hlt | rfl
      · have hsucc : sizeAt steps (k + 1) = sizeAt steps k + 1 := sizeAt_succ step
        have hle := sizeAt_mono steps (t := k + 1) hlt
        omega
      · exact ⟨j, step, request⟩
  · rintro ⟨j, step, request⟩
    exact .origin (Nat.lt_succ_self t) step request

/-! ## First builds -/

omit hrun

/-- In the history of a cache before time `t`, the builder ran for the request at time `u` and returned
    `r`. Every other request came later, ran nothing and returned `r` too. -/
structure FirstBuild (steps : List (Step ρ)) (stops : List (Bank ρ × Effect ρ)) (t i u : Nat)
    (r : ρ) : Prop where
  requested : Requested steps t i u r
  ran : ∃ b, stops[u]? = some (b, .answered true r)
  others : ∀ v result, Requested steps t i v result → v ≠ u →
    u < v ∧ ∃ b, stops[v]? = some (b, .answered false r)

theorem FirstBuild.congr {t' j u : Nat} {r : ρ} (h : FirstBuild steps stops t i u r)
    (hsame : ∀ v result, Requested steps t' j v result ↔ Requested steps t i v result) :
    FirstBuild steps stops t' j u r where
  requested := (hsame u r).mpr h.requested
  ran := h.ran
  others v result hv := h.others v result ((hsame v result).mp hv)

/-- A history has one first build. -/
theorem FirstBuild.unique {u v : Nat} {r r' : ρ} (h : FirstBuild steps stops t i u r)
    (h' : FirstBuild steps stops t i v r') : r = r' := by
  obtain ⟨b, hb⟩ := h.ran
  by_cases huv : u = v
  · subst huv
    obtain ⟨b', hb'⟩ := h'.ran
    cases hb.symm.trans hb'
    rfl
  · obtain ⟨-, b', hb'⟩ := h'.others u r h.requested huv
    cases hb.symm.trans hb'

/-- What a cache holds is explained by its history. -/
structure Explained (steps : List (Step ρ)) (stops : List (Bank ρ × Effect ρ)) (t i : Nat)
    (held : Option ρ) : Prop where
  unasked : held = none → ∀ u r, ¬ Requested steps t i u r
  built : ∀ r, held = some r → ∃ u, FirstBuild steps stops t i u r

theorem Explained.eq_none_iff {held : Option ρ} (h : Explained steps stops t i held) :
    held = none ↔ ∀ u r, ¬ Requested steps t i u r := by
  refine ⟨h.unasked, fun hnone => ?_⟩
  cases held with
  | none => rfl
  | some r =>
    obtain ⟨u, hu⟩ := h.built r rfl
    exact absurd hu.requested (hnone u r)

theorem Explained.eq_some_iff {held : Option ρ} {r : ρ} (h : Explained steps stops t i held) :
    held = some r ↔ ∃ u, FirstBuild steps stops t i u r := by
  refine ⟨h.built r, fun ⟨u, hu⟩ => ?_⟩
  cases held with
  | none => exact absurd hu.requested (h.unasked rfl u r)
  | some r' =>
    obtain ⟨v, hv⟩ := h.built r' rfl
    rw [hv.unique hu]

theorem Explained.congr {t' : Nat} {held : Option ρ} (h : Explained steps stops t i held)
    (hsame : ∀ v result, Requested steps t' j v result ↔ Requested steps t i v result) :
    Explained steps stops t' j held where
  unasked hnone u r hu := h.unasked hnone u r ((hsame u r).mp hu)
  built r hr := by
    obtain ⟨u, hu⟩ := h.built r hr
    exact ⟨u, hu.congr hsame⟩

include hrun

/-- A request is the first of its history or is answered with what was built for the first. -/
theorem Explained.ask {result : ρ} (hs : steps[t]? = some (.ask i result))
    (hc : cacheAt stops t i = some c) (h : Explained steps stops t i c.held) :
    ∃ u, FirstBuild steps stops (t + 1) i u (c.held.getD result) := by
  obtain ⟨c', b, hc', hanswer⟩ := answer_at hrun hs
  cases hc.symm.trans hc'
  have hsucc := fun v r => requested_succ_iff hs (target_lt hrun hs rfl) (u := v) (r := r)
  cases hheld : c.held with
  | none =>
    rw [hheld] at hanswer
    refine ⟨t, (hsucc t result).mpr (.inr ⟨rfl, rfl⟩), ⟨b, hanswer⟩, fun v r hv hne => ?_⟩
    rcases (hsucc v r).mp hv with hv | ⟨rfl, -⟩
    · exact absurd hv (h.unasked hheld v r)
    · exact absurd rfl hne
  | some r =>
    rw [hheld] at hanswer
    obtain ⟨u, hu⟩ := h.built r hheld
    refine ⟨u, hu.requested.mono (Nat.le_succ t), hu.ran, fun v r' hv hne => ?_⟩
    rcases (hsucc v r').mp hv with hv | ⟨rfl, -⟩
    · exact hu.others v r' hv hne
    · exact ⟨hu.requested.lt, b, hanswer⟩

/-- A step on a cache that was there before it. -/
theorem Explained.step (hs : steps[t]? = some s) (hc : cacheAt stops t i = some c)
    (h : Explained steps stops t i c.held) :
    Explained steps stops (t + 1) i (c.held.or (s.request? i)) := by
  cases hrequest : s.request? i with
  | none =>
    rw [Option.or_none]
    have hold := ((exists_cacheAt_iff hrun).mp ⟨c, hc⟩).2
    refine h.congr fun v r => (requested_succ_iff hs hold).trans (or_iff_left fun hv => ?_)
    rw [Step.request?_eq_some_iff.mpr hv.2] at hrequest
    cases hrequest
  | some result =>
    rw [Step.request?_eq_some_iff.mp hrequest] at hs
    obtain ⟨u, hu⟩ := h.ask hrun hs hc
    have hheld : c.held.or (some result) = some (c.held.getD result) := by
      cases c.held <;> rfl
    rw [hheld]
    refine ⟨nofun, fun r hr => ⟨u, ?_⟩⟩
    rwa [← Option.some.inj hr]

theorem Explained.copy (hs : steps[t]? = some (.copy j)) {held : Option ρ}
    (h : Explained steps stops t j held) :
    Explained steps stops (t + 1) (sizeAt steps t) held := by
  refine h.congr fun v r => (requested_appended_iff hrun).trans ⟨?_, fun h => ⟨j, hs, h⟩⟩
  rintro ⟨j', hj', h⟩
  cases hs.symm.trans hj'
  exact h

theorem explained_add (hs : steps[t]? = some .add) :
    Explained steps stops (t + 1) (sizeAt steps t) none := by
  refine ⟨fun _ u r hu => ?_, nofun⟩
  obtain ⟨j, hj, -⟩ := (requested_appended_iff hrun).mp hu
  cases hs.symm.trans hj

/-- **Histories.** At every time of a run, every cache is explained by its history. -/
theorem explained (hc : cacheAt stops t i = some c) : Explained steps stops t i c.held := by
  induction t generalizing i c with
  | zero =>
    have hi : i < sizeAt steps 0 := ((exists_cacheAt_iff hrun).mp ⟨c, hc⟩).2
    obtain rfl : i = 0 := Nat.lt_one_iff.mp hi
    cases hc
    exact ⟨fun _ u r h => Nat.not_lt_zero u h.lt, nofun⟩
  | succ t ih =>
    obtain ⟨ht, hi⟩ := (exists_cacheAt_iff hrun).mp ⟨c, hc⟩
    have hs : steps[t]? = some steps[t] := List.getElem?_eq_getElem ht
    by_cases hold : i < sizeAt steps t
    · obtain ⟨before, hbefore⟩ := (exists_cacheAt_iff hrun).mpr ⟨Nat.le_of_succ_le ht, hold⟩
      cases hc.symm.trans (cacheAt_succ hrun hs hbefore)
      exact (ih hbefore).step hrun hs hbefore
    · -- the step has appended the cache
      have hsize := sizeAt_succ hs
      obtain rfl : i = sizeAt steps t := by split at hsize <;> omega
      cases hstep : steps[t] with
      | ask j result =>
        rw [hstep] at hsize
        exact absurd (hsize ▸ hi) (Nat.lt_irrefl _)
      | copy j =>
        rw [hstep] at hs
        obtain ⟨before, hbefore, hafter⟩ := cacheAt_copy hrun hs
        cases hc.symm.trans hafter
        exact (ih hbefore).copy hrun hs
      | add =>
        rw [hstep] at hs
        cases hc.symm.trans (cacheAt_add hrun hs)
        exact explained_add hrun hs

/-! ## Requests to a cache itself -/

/-- The first request to the cache itself from one time on and before another. -/
def firstRequest (steps : List (Step ρ)) (t t' i : Nat) : Option ρ :=
  ((steps.take t').drop t).findSome? (Step.request? i)

/-- What a cache holds stays there. An empty one is filled by the next request to the cache itself. -/
theorem cacheAt_later (hc : cacheAt stops t i = some c) {t' : Nat} (htt' : t ≤ t')
    (ht' : t' ≤ steps.length) :
    cacheAt stops t' i = some ⟨c.held.or (firstRequest steps t t' i)⟩ := by
  induction htt' with
  | refl =>
    have hnone : (steps.take t).drop t = [] := List.drop_eq_nil_of_le (List.length_take_le t steps)
    rw [firstRequest, hnone, hc, List.findSome?_nil, Option.or_none]
  | @step t' htt' ih =>
    have hs : steps[t']? = some steps[t'] := List.getElem?_eq_getElem ht'
    have hlength : t ≤ (steps.take t').length := by
      rw [List.length_take]
      exact Nat.le_min.mpr ⟨htt', Nat.le_trans htt' (Nat.le_of_succ_le ht')⟩
    have hlast : ((steps.take (t' + 1)).drop t) = (steps.take t').drop t ++ [steps[t']] := by
      rw [List.take_add_one, hs, List.drop_append_of_le_length hlength]
      rfl
    have hfirst : firstRequest steps t (t' + 1) i =
        (firstRequest steps t t' i).or (steps[t'].request? i) := by
      rw [firstRequest, hlast, List.findSome?_append, List.findSome?_singleton, firstRequest]
    rw [cacheAt_succ hrun hs (ih (Nat.le_of_succ_le ht')), Option.or_assoc, hfirst]

/-- After a copy, the copy and the cache that is copied hold what it held, or else what is first
    requested of themselves. -/
theorem cacheAt_copy_later (hs : steps[t]? = some (.copy j)) (hc : cacheAt stops t j = some c)
    {t' : Nat} (htt' : t < t') (ht' : t' ≤ steps.length) :
    cacheAt stops t' j = some ⟨c.held.or (firstRequest steps (t + 1) t' j)⟩ ∧
    cacheAt stops t' (sizeAt steps t) =
      some ⟨c.held.or (firstRequest steps (t + 1) t' (sizeAt steps t))⟩ := by
  obtain ⟨c', hc', hcopy⟩ := cacheAt_copy hrun hs
  cases hc.symm.trans hc'
  have hkept := cacheAt_succ hrun hs hc
  rw [Step.request?, Option.or_none] at hkept
  exact ⟨cacheAt_later hrun hkept htt' ht', cacheAt_later hrun hcopy htt' ht'⟩

end Run

/-! ## Main statement -/

/-- What a run of a bank of caches does. That a result is shared can be seen if every request is made for
    a result of its own. -/
structure KeepsFirstBuilds (steps : List (Step ρ)) (stops : List (Bank ρ × Effect ρ)) : Prop where
  /-- There is one cache at the start, and one more after each step that appends one. -/
  caches : ∀ t i, (∃ c, cacheAt stops t i = some c) ↔ t ≤ steps.length ∧ i < sizeAt steps t
  /-- A cache is empty as long as there is no request in its history, -/
  empty_iff : ∀ t i c, cacheAt stops t i = some c →
    (c.held = none ↔ ∀ u r, ¬ Requested steps t i u r)
  /-- and holds what was built first in its history, -/
  held_iff : ∀ t i c r, cacheAt stops t i = some c →
    (c.held = some r ↔ ∃ u, FirstBuild steps stops t i u r)
  /-- for ever. -/
  forever : ∀ t t' i c c' r, t ≤ t' → cacheAt stops t i = some c → cacheAt stops t' i = some c' →
    c.held = some r → c'.held = some r
  /-- A request runs its builder exactly if the cache is empty, and returns what was built first in the
      history of the cache, now or before. -/
  answers : ∀ t i result, steps[t]? = some (.ask i result) →
    ∃ c b r, cacheAt stops t i = some c ∧ stops[t]? = some (b, .answered c.held.isNone r) ∧
      (c.held = none → r = result) ∧ ∃ u, FirstBuild steps stops (t + 1) i u r
  /-- All other caches stay as they are, a cache that is copied too. -/
  others : ∀ t s i c, steps[t]? = some s → (∀ r, s ≠ .ask i r) → cacheAt stops t i = some c →
    cacheAt stops (t + 1) i = some c
  /-- A copy starts with what the cache holds that is copied, and a new cache empty. -/
  copied : ∀ t j, steps[t]? = some (.copy j) → ∃ c, cacheAt stops t j = some c ∧
    cacheAt stops (t + 1) (sizeAt steps t) = some c
  added : ∀ t, steps[t]? = some .add → cacheAt stops (t + 1) (sizeAt steps t) = some ⟨none⟩
  /-- A copy of a full cache shares its result at all times, and runs no builder, -/
  shares : ∀ t j c r, steps[t]? = some (.copy j) → cacheAt stops t j = some c → c.held = some r →
    (∀ t', t < t' → t' ≤ steps.length → cacheAt stops t' j = some ⟨some r⟩ ∧
      cacheAt stops t' (sizeAt steps t) = some ⟨some r⟩) ∧
    ∀ t' result, t < t' → steps[t']? = some (.ask (sizeAt steps t) result) →
      ∃ b, stops[t']? = some (b, .answered false r)
  /-- and a copy of an empty one and the cache that was copied are both filled by requests to
      themselves, whatever is requested of the other. -/
  independent : ∀ t j c, steps[t]? = some (.copy j) → cacheAt stops t j = some c → c.held = none →
    ∀ t', t < t' → t' ≤ steps.length →
      cacheAt stops t' j = some ⟨firstRequest steps (t + 1) t' j⟩ ∧
      cacheAt stops t' (sizeAt steps t) = some ⟨firstRequest steps (t + 1) t' (sizeAt steps t)⟩

/-- **Caches.** Steps on a bank can be made if and only if the caches exist that they are about, and
    whatever the steps are, every cache keeps what was built first in its history. -/
theorem first_builds_kept (steps : List (Step ρ)) :
    ((∃ stops, ({} : Bank ρ).run steps = some stops) ↔
      ∀ t s i, steps[t]? = some s → s.target? = some i → i < sizeAt steps t) ∧
    ∀ stops, ({} : Bank ρ).run steps = some stops → KeepsFirstBuilds steps stops := by
  refine ⟨exists_run_iff {} steps, fun stops hrun => ?_⟩
  constructor
  case caches => exact fun t i => exists_cacheAt_iff hrun
  case empty_iff => exact fun t i c hc => (explained hrun hc).eq_none_iff
  case held_iff => exact fun t i c r hc => (explained hrun hc).eq_some_iff
  case forever =>
    intro t t' i c c' r htt' hc hc' hr
    have ht' := ((exists_cacheAt_iff hrun).mp ⟨c', hc'⟩).1
    cases hc'.symm.trans (cacheAt_later hrun hc htt' ht')
    rw [hr, Option.some_or]
  case answers =>
    intro t i result hs
    obtain ⟨c, b, hc, hanswer⟩ := answer_at hrun hs
    refine ⟨c, b, _, hc, hanswer, fun hnone => by rw [hnone]; rfl, ?_⟩
    exact (explained hrun hc).ask hrun hs hc
  case others =>
    intro t s i c hs hother hc
    have hnone : s.request? i = none :=
      Option.eq_none_iff_forall_ne_some.mpr fun r hr => hother r (Step.request?_eq_some_iff.mp hr)
    rw [cacheAt_succ hrun hs hc, hnone, Option.or_none]
  case copied => exact fun t j hs => cacheAt_copy hrun hs
  case added => exact fun t hs => cacheAt_add hrun hs
  case shares =>
    intro t j c r hs hc hr
    have hlater : ∀ t', t < t' → t' ≤ steps.length → cacheAt stops t' j = some ⟨some r⟩ ∧
        cacheAt stops t' (sizeAt steps t) = some ⟨some r⟩ := by
      intro t' htt' ht'
      have hboth := cacheAt_copy_later hrun hs hc htt' ht'
      rwa [hr, Option.some_or, Option.some_or] at hboth
    refine ⟨hlater, fun t' result htt' hs' => ?_⟩
    obtain ⟨c', b, hc', hanswer⟩ := answer_at hrun hs'
    have ht' := (List.getElem?_eq_some_iff.mp hs').1
    cases hc'.symm.trans (hlater t' htt' (Nat.le_of_lt ht')).2
    exact ⟨b, hanswer⟩
  case independent =>
    intro t j c hs hc hnone t' htt' ht'
    have hboth := cacheAt_copy_later hrun hs hc htt' ht'
    rwa [hnone, Option.none_or, Option.none_or] at hboth

/-- A full cache and an empty one are copied. -/
theorem first_builds_kept_copies :
    let steps : List (Step Nat) := [.ask 0 7, .copy 0, .add, .copy 2, .ask 3 5, .ask 1 9, .ask 2 6]
    ∃ stops, ({} : Bank Nat).run steps = some stops ∧ KeepsFirstBuilds steps stops ∧
      stops.map Prod.snd = [.answered true 7, .appended, .appended, .appended, .answered true 5,
        .answered false 7, .answered true 6] ∧
      (bankAt {} stops 7).map (·.caches.map Cache.held) = some [some 7, some 7, some 6, some 5] :=
  ⟨_, rfl, (first_builds_kept _).2 _ rfl, rfl, rfl⟩

end Bank

end JsonValidation.Cache
