import JsonValidation.Schema.Rulebook
import Mathlib.Data.List.Induction
import Mathlib.Logic.Function.Basic

/-!
# What a history leaves

Settings record the constraints that were demanded and which of them was demanded last. This is the
same as the history of their calls says.

* `exists_lastDemand`, `lastDemand?_eq_none`: the rule that was demanded last has a constraint, and
  there is such a rule unless there is no constraint at all.
* `demands_demand`, `demands_message_of_some`, `demands_message_of_none`: what one more call changes.
  `lands`: a message changes the wording of one constraint or of the type check.
* `Draft`: the constraints of a rulebook with the rule that was demanded last. `foldl_call`: after a
  history these are what the history leaves.
-/

namespace JsonValidation

namespace Rulebook

variable {book : Rulebook} {rule : book.Rule} {bound : book.Bound rule} {text : String}
  {calls earlier later : List book.Call}

/-! ## Histories that go on -/

theorem lastRule?_append (earlier later : List book.Call) :
    lastRule? (earlier ++ later) = (lastRule? later).or (lastRule? earlier) := by
  induction earlier with
  | nil => rw [List.nil_append, lastRule?, Option.or_none]
  | cons call rest ih =>
    cases call with
    | demand rule bound => rw [List.cons_append, lastRule?, lastRule?, ih, Option.or_assoc]
    | message text => rw [List.cons_append, lastRule?, lastRule?, ih]

theorem lastDemand?_append (rule : book.Rule) (earlier later : List book.Call) :
    lastDemand? rule (earlier ++ later) =
      (lastDemand? rule later).or
        ((lastDemand? rule earlier).map fun found => (found.1, found.2 ++ later)) := by
  induction earlier with
  | nil => rw [List.nil_append, lastDemand?, Option.map_none, Option.or_none]
  | cons call rest ih =>
    cases call with
    | demand other bound =>
      rw [List.cons_append, lastDemand?, lastDemand?, ih, Option.or_assoc, Option.map_or]
      split <;> rfl
    | message text => rw [List.cons_append, lastDemand?, lastDemand?, ih]

theorem leading_append_of_none (h : lastRule? earlier = none) (later : List book.Call) :
    leading (earlier ++ later) = leading earlier ++ leading later := by
  induction earlier with
  | nil => rfl
  | cons call rest ih =>
    cases call with
    | demand rule bound => cases (Option.or_eq_none_iff.mp h).2
    | message text => rw [List.cons_append, leading, leading, ih h, List.cons_append]

theorem leading_append_of_some (h : lastRule? earlier = some rule) (later : List book.Call) :
    leading (earlier ++ later) = leading earlier := by
  induction earlier with
  | nil => cases h
  | cons call rest ih =>
    cases call with
    | demand rule bound => rfl
    | message text => rw [List.cons_append, leading, leading, ih h]

/-! ## The rule that is demanded last -/

/-- There is none unless something is demanded. -/
theorem lastDemand?_eq_none (h : lastRule? calls = none) (rule : book.Rule) :
    lastDemand? rule calls = none := by
  induction calls with
  | nil => rfl
  | cons call rest ih =>
    cases call with
    | demand other bound => cases (Option.or_eq_none_iff.mp h).2
    | message text => exact ih h

/-- After its last demand come only messages. -/
theorem exists_lastDemand (h : lastRule? calls = some rule) :
    ∃ bound later, lastDemand? rule calls = some (bound, later) ∧ lastRule? later = none := by
  induction calls with
  | nil => cases h
  | cons call rest ih =>
    cases call with
    | message text => exact ih h
    | demand other value =>
      rw [lastRule?, Option.or_eq_some_iff] at h
      rcases h with h | ⟨hrest, h⟩
      · obtain ⟨bound, later, hfound, hlater⟩ := ih h
        exact ⟨bound, later, by rw [lastDemand?, hfound, Option.some_or], hlater⟩
      · cases h
        refine ⟨value, rest, ?_, hrest⟩
        rw [lastDemand?, lastDemand?_eq_none hrest, Option.none_or, dif_pos rfl]

/-- The calls after the last demand of a rule tell which rule is demanded last. -/
theorem lastRule?_of_lastDemand? {found : book.Bound rule × List book.Call}
    (h : lastDemand? rule calls = some found) :
    lastRule? calls = some ((lastRule? found.2).getD rule) ∧ lastRule? found.2 ≠ some rule := by
  induction calls with
  | nil => cases h
  | cons call rest ih =>
    cases call with
    | message text => exact ih h
    | demand other value =>
      rw [lastDemand?, Option.or_eq_some_iff] at h
      rcases h with h | ⟨hrest, hfirst⟩
      · obtain ⟨hlast, hne⟩ := ih h
        exact ⟨by rw [lastRule?, hlast, Option.some_or], hne⟩
      · have hne : lastRule? rest ≠ some rule := by
          intro hlast
          obtain ⟨_, _, hfound, -⟩ := exists_lastDemand hlast
          cases hrest.symm.trans hfound
        split at hfirst
        · next heq =>
          subst heq
          cases hfirst
          refine ⟨?_, hne⟩
          rw [lastRule?]
          cases lastRule? rest <;> rfl
        · cases hfirst

/-! ## What a call changes -/

theorem lastRule?_demand (calls : List book.Call) (rule : book.Rule) (bound : book.Bound rule) :
    lastRule? (calls ++ [.demand rule bound]) = some rule := by
  rw [lastRule?_append]
  rfl

theorem lastRule?_message (calls : List book.Call) (text : String) :
    lastRule? (calls ++ [.message text]) = lastRule? calls := by
  rw [lastRule?_append, lastRule?, lastRule?, Option.none_or]

theorem leading_demand (calls : List book.Call) (rule : book.Rule) (bound : book.Bound rule) :
    leading (calls ++ [.demand rule bound]) = leading calls := by
  cases hlast : lastRule? calls with
  | none => rw [leading_append_of_none hlast, leading, List.append_nil]
  | some other => rw [leading_append_of_some hlast]

/-- A demand sets a constraint anew, without its message. -/
theorem demands_demand (calls : List book.Call) (rule : book.Rule) (bound : book.Bound rule) :
    demands (calls ++ [.demand rule bound]) =
      { demands calls with
        constraint := Function.update (demands calls).constraint rule (some ⟨bound, none⟩) } := by
  have hconstraint : (fun other => constraint? other (calls ++ [.demand rule bound])) =
      Function.update (demands calls).constraint rule (some ⟨bound, none⟩) := by
    funext other
    rw [constraint?, lastDemand?_append]
    by_cases hother : other = rule
    · subst hother
      rw [Function.update_self, lastDemand?, lastDemand?, dif_pos rfl]
      rfl
    · rw [Function.update_of_ne hother, lastDemand?, lastDemand?,
        dif_neg fun h => hother h.symm, Option.none_or, Option.none_or, Option.map_map]
      refine Option.map_congr fun found _ => ?_
      exact congrArg (Constraint.mk found.1) (congrArg List.getLast? (leading_demand ..))
  rw [demands, hconstraint, typeMessage?, leading_demand]
  rfl

/-- The demands with a message for the constraint of a rule. -/
def Demands.reword (d : Demands book) (rule : book.Rule) (text : String) : Demands book :=
  { d with
    constraint :=
      Function.update d.constraint rule ((d.constraint rule).map (·.withMessage text)) }

/-- A message goes to the type check when nothing was demanded before. -/
theorem demands_message_of_none (h : lastRule? calls = none) (text : String) :
    demands (calls ++ [.message text]) = { demands calls with typeMessage := some text } := by
  have hconstraint (rule : book.Rule) :
      constraint? rule (calls ++ [.message text]) = constraint? rule calls := by
    have hlast : lastRule? (calls ++ [.message text]) = none := (lastRule?_message ..).trans h
    rw [constraint?, constraint?, lastDemand?_eq_none h, lastDemand?_eq_none hlast]
  have htype : typeMessage? (calls ++ [.message text]) = some text := by
    rw [typeMessage?, leading_append_of_none h, leading, leading, List.getLast?_concat]
  rw [demands, htype, demands]
  simp only [hconstraint]

/-- A message goes to the rule that was demanded last. -/
theorem demands_message_of_some (h : lastRule? calls = some rule) (text : String) :
    demands (calls ++ [.message text]) = (demands calls).reword rule text := by
  have hconstraint : (fun other => constraint? other (calls ++ [.message text])) =
      Function.update (demands calls).constraint rule
        (((demands calls).constraint rule).map (·.withMessage text)) := by
    funext other
    rw [constraint?, lastDemand?_append, lastDemand?, lastDemand?, Option.none_or]
    by_cases hother : other = rule
    · subst hother
      obtain ⟨bound, later, hfound, hlater⟩ := exists_lastDemand h
      have hold : (demands calls).constraint other =
          some ⟨bound, (leading later).getLast?⟩ := by
        show constraint? other calls = _
        rw [constraint?, hfound, Option.map_some]
      have hlatest : (leading (later ++ [.message text])).getLast? = some text := by
        rw [leading_append_of_none hlater, leading, leading, List.getLast?_concat]
      rw [Function.update_self, hold, hfound, Option.map_some, Option.map_some, hlatest,
        Option.map_some, Constraint.withMessage]
    · rw [Function.update_of_ne hother, Option.map_map]
      refine Option.map_congr fun found hfound => ?_
      -- the message comes after a demand of another rule
      obtain ⟨hlast, hne⟩ := lastRule?_of_lastDemand? hfound
      have hlater : lastRule? found.2 = some rule := by
        rw [h] at hlast
        cases hrest : lastRule? found.2 with
        | none => rw [hrest] at hlast; exact absurd (Option.some.inj hlast).symm hother
        | some last => rw [hrest] at hlast; exact hlast.symm
      exact congrArg (Constraint.mk found.1) (congrArg List.getLast? (leading_append_of_some hlater _))
  have htype : typeMessage? (calls ++ [.message text]) = typeMessage? calls := by
    rw [typeMessage?, leading_append_of_some h, typeMessage?]
  rw [demands, hconstraint, htype]
  rfl

/-! ## Checks -/

/-- The first violation, with one constraint tried after the other. -/
theorem Demands.violation?_eq_or (d : Demands book) (content : book.Content) :
    d.violation? content = book.order.foldr (fun rule later =>
      ((d.constraint rule).bind (book.check rule · content)).or later) none := by
  rw [Demands.violation?]
  induction book.order with
  | nil => rfl
  | cons rule rest ih =>
    rw [List.findSome?_cons, List.foldr_cons, ← ih]
    cases (d.constraint rule).bind (book.check rule · content) <;> rfl

section Outcomes

variable {d : Demands book} {accepted : book.Content → Path → Outcome Output} {value : Value}
  {content : book.Content}

theorem outcome_of_violation (hcontent : book.content? value = some content) {violation : Violation}
    (h : d.violation? content = some violation) (path : Path) :
    outcome d accepted (some value) path =
      Outcome.fail path violation.1 violation.2 (some value) := by
  simp [outcome, hcontent, h]

theorem outcome_of_no_violation (hcontent : book.content? value = some content)
    (h : d.violation? content = none) (path : Path) :
    outcome d accepted (some value) path = accepted content path := by
  simp [outcome, hcontent, h]

end Outcomes

/-! ## Messages -/

/-- A message lands in one place: on the type check when nothing was demanded before it, and else on
    the constraint that was demanded last, which is there. All else stays. -/
structure Lands (calls : List book.Call) (text : String) : Prop where
  on_type : lastRule? calls = none → (∀ rule, constraint? rule calls = none) ∧
    demands (calls ++ [.message text]) = { demands calls with typeMessage := some text }
  on_rule : ∀ rule, lastRule? calls = some rule → (constraint? rule calls).isSome ∧
    demands (calls ++ [.message text]) = (demands calls).reword rule text

theorem lands (calls : List book.Call) (text : String) : Lands calls text where
  on_type h := by
    refine ⟨fun rule => ?_, demands_message_of_none h text⟩
    rw [constraint?, lastDemand?_eq_none h, Option.map_none]
  on_rule rule h := by
    obtain ⟨bound, later, hfound, -⟩ := exists_lastDemand h
    refine ⟨?_, demands_message_of_some h text⟩
    rw [constraint?, hfound, Option.map_some, Option.isSome_some]

/-! ## Drafts -/

/-- What settings record while a schema is made. -/
@[ext]
structure Draft (book : Rulebook) extends Demands book where
  /-- The rule that was demanded last. -/
  last : Option book.Rule

/-- Before any call. -/
def Draft.blank : Draft book := ⟨⟨fun _ => none, none⟩, none⟩

/-- After a call. -/
def Draft.call (d : Draft book) : book.Call → Draft book
  | .demand rule bound =>
    { d with
      constraint := Function.update d.constraint rule (some ⟨bound, none⟩)
      last := some rule }
  | .message text =>
    match d.last with
    | some rule => { d with toDemands := d.toDemands.reword rule text }
    | none => { d with typeMessage := some text }

/-- What is recorded after a history is what the history leaves. -/
theorem foldl_call (calls : List book.Call) :
    calls.foldl Draft.call .blank = ⟨demands calls, lastRule? calls⟩ := by
  induction calls using List.reverseRecOn with
  | nil => rfl
  | append_singleton calls call ih =>
    rw [List.foldl_append, ih, List.foldl_cons, List.foldl_nil]
    cases call with
    | demand rule bound => rw [Draft.call, demands_demand, lastRule?_demand]
    | message text =>
      rw [Draft.call, lastRule?_message]
      cases hlast : lastRule? calls with
      | none => rw [demands_message_of_none hlast]
      | some rule => rw [demands_message_of_some hlast]

end Rulebook

end JsonValidation
