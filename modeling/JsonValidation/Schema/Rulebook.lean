import JsonValidation.Schema.Build
import JsonValidation.Schema.Interpret

/-!
# Rulebooks and histories

A kind of schema with constraints has a rulebook: its rules in the order of their checks, and what
each of them demands and says. What a schema of the kind demands can be told from the calls that it
was made by, whatever it has recorded of them. The last demand of a rule counts, with the last of the
messages that were given between it and the next demand.

* `Rulebook.Call`: what a builder call comes to, a demand or a message.
* `Rulebook.constraint?`, `Rulebook.typeMessage?`: what is left of a history of calls.
* `Rulebook.outcome`: the outcome of an input, given what is demanded.
* `Base`: what builder calls start from, for each of the four kinds that have a rulebook.
-/

namespace JsonValidation

/-- The rules of a kind of schema. -/
structure Rulebook where
  Rule : Type
  [decideRule : DecidableEq Rule]
  /-- What a rule can be set to. -/
  Bound : Rule → Type
  /-- What the rules look at. -/
  Content : Type
  /-- The name of the type of input that is expected. -/
  expected : String
  /-- The content of a value of this type. -/
  content? : Value → Option Content
  /-- The rules in the order of their checks. -/
  order : List Rule
  breaks : (rule : Rule) → Bound rule → Content → Bool
  kind : Rule → FailureKind
  /-- What a rule says that was given no message. -/
  usual : (rule : Rule) → Bound rule → String

attribute [instance] Rulebook.decideRule

namespace Rulebook

/-- A builder call. -/
inductive Call (book : Rulebook) where
  | demand (rule : book.Rule) (bound : book.Bound rule)
  | message (text : String)

variable {book : Rulebook}

/-! ## Histories -/

/-- The texts of the messages that are given before anything is demanded. -/
def leading : List book.Call → List String
  | [] => []
  | .demand .. :: _ => []
  | .message text :: rest => text :: leading rest

/-- The rule that is demanded last. -/
def lastRule? : List book.Call → Option book.Rule
  | [] => none
  | .demand rule _ :: rest => (lastRule? rest).or (some rule)
  | .message _ :: rest => lastRule? rest

/-- The last demand of a rule, with the calls that come after it. -/
def lastDemand? (rule : book.Rule) : List book.Call → Option (book.Bound rule × List book.Call)
  | [] => none
  | .demand other bound :: rest =>
    (lastDemand? rule rest).or (if h : other = rule then some (h ▸ bound, rest) else none)
  | .message _ :: rest => lastDemand? rule rest

/-- The constraint that a history leaves on a rule. -/
def constraint? (rule : book.Rule) (calls : List book.Call) :
    Option (Constraint (book.Bound rule)) :=
  (lastDemand? rule calls).map fun found => ⟨found.1, (leading found.2).getLast?⟩

/-- The message that a history leaves on the type check. -/
def typeMessage? (calls : List book.Call) : Option String := (leading calls).getLast?

/-- What is demanded of an input, rule by rule. -/
@[ext]
structure Demands (book : Rulebook) where
  constraint : (rule : book.Rule) → Option (Constraint (book.Bound rule))
  typeMessage : Option String

/-- What a history demands. -/
def demands (calls : List book.Call) : Demands book where
  constraint rule := constraint? rule calls
  typeMessage := typeMessage? calls

/-! ## Checking -/

/-- The check of a constraint. -/
def check (book : Rulebook) (rule : book.Rule) (c : Constraint (book.Bound rule)) :
    Check book.Content := fun content =>
  if book.breaks rule c.value content then some (c.violation (book.kind rule) (book.usual rule))
  else none

/-- The first violation in the order of the checks. -/
def Demands.violation? (d : Demands book) (content : book.Content) : Option Violation :=
  book.order.findSome? fun rule => (d.constraint rule).bind (book.check rule · content)

/-- The outcome of an input: its type is checked first and the constraints then, and it depends on the
    kind of schema what becomes of a content that violates none. -/
def outcome (d : Demands book) (accepted : book.Content → Path → Outcome Output) : Routine :=
  fun input path =>
    match input.bind book.content? with
    | some content =>
      match d.violation? content with
      | some (kind, message) => Outcome.fail path kind message input
      | none => accepted content path
    | none => typeFailure book.expected input path d.typeMessage

end Rulebook

/-! ## The four kinds -/

/-- What a rule for strings can be set to. -/
@[reducible]
def StringRule.Bound : StringRule → Type
  | minLen => Nat
  | maxLen => Nat
  | pattern => Pattern

/-- What a rule for numbers can be set to. -/
@[reducible]
def NumberRule.Bound : NumberRule → Type
  | min => Binary64
  | max => Binary64
  | positive => Unit
  | negative => Unit

/-- What a rule for arrays can be set to. -/
@[reducible]
def ArrayRule.Bound : ArrayRule → Type
  | minLen => Nat
  | maxLen => Nat

namespace StringSettings

/-- The rules for strings. Lengths are counted in UTF-16 code units. -/
def rulebook : Rulebook where
  Rule := StringRule
  Bound := StringRule.Bound
  Content := String
  expected := "string"
  content?
    | .string s => some s
    | _ => none
  order := [.minLen, .maxLen, .pattern]
  breaks
    | .minLen, n, s => decide (Text.units16 s < n)
    | .maxLen, n, s => decide (n < Text.units16 s)
    | .pattern, p, s => !p.accepts s
  kind
    | .minLen => .lengthOutOfBounds
    | .maxLen => .lengthOutOfBounds
    | .pattern => .patternMismatch
  usual
    | .minLen, n => "String must be at least " ++ Nat.repr n ++ " characters"
    | .maxLen, n => "String must be at most " ++ Nat.repr n ++ " characters"
    | .pattern, p => "String must match pattern /" ++ p.source ++ "/"

/-- The calls that a setting stands for, if it applies. -/
def calls? : Setting → Option (List rulebook.Call)
  | .minLen n => some [.demand StringRule.minLen n]
  | .maxLen n => some [.demand StringRule.maxLen n]
  | .nonEmpty => some [.demand StringRule.minLen (1 : Nat)]
  | .pattern p => some [.demand StringRule.pattern p]
  | .message text => some [.message text]
  | _ => none

end StringSettings

namespace NumberSettings

/-- The rules for numbers, which look at the nearest binary64 number. -/
def rulebook : Rulebook where
  Rule := NumberRule
  Bound := NumberRule.Bound
  Content := Number
  expected := "number"
  content?
    | .number n => some n
    | _ => none
  order := [.min, .max, .positive, .negative]
  breaks
    | .min, bound, n => n.toBinary64.lt bound
    | .max, bound, n => bound.lt n.toBinary64
    | .positive, _, n => n.toBinary64.le .zero
    | .negative, _, n => Binary64.zero.le n.toBinary64
  kind
    | .min => .rangeOutOfBounds
    | .max => .rangeOutOfBounds
    | .positive => .signViolated
    | .negative => .signViolated
  usual
    | .min, bound => "Number must be greater than or equal to " ++ Binary64.boundText bound
    | .max, bound => "Number must be less than or equal to " ++ Binary64.boundText bound
    | .positive, _ => "Number must be positive"
    | .negative, _ => "Number must be negative"

/-- The calls that a setting stands for, if it applies. -/
def calls? : Setting → Option (List rulebook.Call)
  | .min bound => some [.demand NumberRule.min bound]
  | .max bound => some [.demand NumberRule.max bound]
  | .range low high => some [.demand NumberRule.min low, .demand NumberRule.max high]
  | .positive => some [.demand NumberRule.positive ()]
  | .negative => some [.demand NumberRule.negative ()]
  | .message text => some [.message text]
  | _ => none

end NumberSettings

namespace BooleanSettings

/-- The rules for booleans. -/
def rulebook : Rulebook where
  Rule := BooleanRule
  Bound _ := Unit
  Content := Bool
  expected := "boolean"
  content?
    | .bool b => some b
    | _ => none
  order := [.mustBeTrue, .mustBeFalse]
  breaks
    | .mustBeTrue, _, b => !b
    | .mustBeFalse, _, b => b
  kind _ := .literalMismatch
  usual
    | .mustBeTrue, _ => "Boolean must be true"
    | .mustBeFalse, _ => "Boolean must be false"

/-- The calls that a setting stands for, if it applies. -/
def calls? : Setting → Option (List rulebook.Call)
  | .mustBeTrue => some [.demand BooleanRule.mustBeTrue ()]
  | .mustBeFalse => some [.demand BooleanRule.mustBeFalse ()]
  | .message text => some [.message text]
  | _ => none

end BooleanSettings

namespace ArraySettings

/-- The rules for arrays. -/
def rulebook : Rulebook where
  Rule := ArrayRule
  Bound := ArrayRule.Bound
  Content := List Value
  expected := "array"
  content?
    | .array items => some items
    | _ => none
  order := [.minLen, .maxLen]
  breaks
    | .minLen, n, items => decide (items.length < n)
    | .maxLen, n, items => decide (n < items.length)
  kind _ := .lengthOutOfBounds
  usual
    | .minLen, n => "Array must contain at least " ++ Nat.repr n ++ " element(s)"
    | .maxLen, n => "Array must contain at most " ++ Nat.repr n ++ " element(s)"

/-- The calls that a setting stands for, if it applies. -/
def calls? : Setting → Option (List rulebook.Call)
  | .minLen n => some [.demand ArrayRule.minLen n]
  | .maxLen n => some [.demand ArrayRule.maxLen n]
  | .nonEmpty => some [.demand ArrayRule.minLen (1 : Nat)]
  | .message text => some [.message text]
  | _ => none

end ArraySettings

/-- What builder calls start from. Without options it is a schema that demands nothing but the type of
    its inputs. -/
inductive Base where
  | string (options : StringOptions)
  | number (options : NumberOptions)
  | boolean (options : BooleanOptions)
  | array (element : Schema) (options : ArrayOptions)

/-! ## Histories of schemas -/

namespace Base

/-- The rulebook of the kind. -/
def rulebook : Base → Rulebook
  | string _ => StringSettings.rulebook
  | number _ => NumberSettings.rulebook
  | boolean _ => BooleanSettings.rulebook
  | array .. => ArraySettings.rulebook

/-- The node itself, in a slot. -/
def start (slot : Slot) : Base → Schema
  | string options => .string slot (.ofOptions options)
  | number options => .number slot (.ofOptions options)
  | boolean options => .boolean slot (.ofOptions options)
  | array element options => .array slot element (.ofOptions options)

/-- The settings that the options stand for, in the order of the checks. -/
def chosen : Base → List Setting
  | string options =>
    (options.minLen.map .minLen).toList ++ (options.maxLen.map .maxLen).toList ++
      (options.pattern.map .pattern).toList
  | number options =>
    (options.min.map .min).toList ++ (options.max.map .max).toList ++
      (if options.positive then [.positive] else []) ++
      (if options.negative then [.negative] else [])
  | boolean options =>
    (if options.mustBeTrue then [.mustBeTrue] else []) ++
      (if options.mustBeFalse then [.mustBeFalse] else [])
  | array _ options =>
    (options.minLen.map .minLen).toList ++ (options.maxLen.map .maxLen).toList

/-- The calls that a setting stands for, if it applies to the kind. -/
def calls? : (base : Base) → Setting → Option (List base.rulebook.Call)
  | string _ => StringSettings.calls?
  | number _ => NumberSettings.calls?
  | boolean _ => BooleanSettings.calls?
  | array .. => ArraySettings.calls?

/-- The calls that settings stand for, if all of them apply. -/
def allCalls? (base : Base) : List Setting → Option (List base.rulebook.Call)
  | [] => some []
  | setting :: rest =>
    (base.calls? setting).bind fun calls => (allCalls? base rest).map fun later => calls ++ later

/-- The calls of a schema that is made from the base by settings. The options count as settings that
    are made first. -/
def history? (base : Base) (settings : List Setting) : Option (List base.rulebook.Call) :=
  base.allCalls? (base.chosen ++ settings)

/-- What becomes of a content that violates no constraint. The items of an array are handed to the
    element schema. -/
def accepted : (base : Base) → base.rulebook.Content → Path → Outcome Output
  | string _, s, _ => .ok (.string s)
  | number _, n, _ => .ok (.number n)
  | boolean _, b, _ => .ok (.bool b)
  | array element _, items, path =>
    (eachItem (fun item => element.interpret (some item)) path 0 items).map .array

/-- The outcome of an input after a history of calls. -/
def outcome (base : Base) (calls : List base.rulebook.Call) : Routine :=
  Rulebook.outcome (Rulebook.demands calls) base.accepted

end Base

/-- The schema after settings made one after the other, each on the result of the one before and in
    the store as it is then. -/
def Schema.setAll : List (Setting × Store) → Schema → Option Schema
  | [], s => some s
  | (setting, σ) :: rest, s => (s.set setting σ).bind fun made => Schema.setAll rest made.1

end JsonValidation
