import JsonValidation.Failure

/-!
# Typed outputs

A successful validation returns an output whose form follows the schema: a text from a string schema,
a list of outputs from an array schema, and so on. A wrapper that accepts absence or null returns a
layer that says which case applied, so that stacked wrappers can be told apart.

* `Output.toValue?`: the value that an output stands for, or nothing for an absent one.
-/

namespace JsonValidation

/-- The output of a validation (`SchemaLike::Output`). -/
inductive Output where
  | string (s : String)
  | number (n : Number)
  | bool (b : Bool)
  /-- An untyped value: the output of a literal. -/
  | value (v : Value)
  | object (members : Members)
  | array (items : List Output)
  /-- What a schema that accepts absence returns for it. -/
  | absent
  /-- What a schema that accepts null returns for it. -/
  | null
  /-- What a schema that accepts absence or null returns otherwise. -/
  | present (output : Output)

namespace Output

mutual

/-- The value that an output stands for (`SchemaLike::output_to_value`). An absent item of an array would
    stand for null. -/
def toValue? : Output → Option Value
  | string s => some (.string s)
  | number n => some (.number n)
  | bool b => some (.bool b)
  | value v => some v
  | object members => some (.object members)
  | array items => some (.array (itemValues items))
  | absent => none
  | null => some .null
  | present output => output.toValue?

/-- The values that the items of an array stand for. -/
def itemValues : List Output → List Value
  | [] => []
  | item :: rest => item.toValue?.getD .null :: itemValues rest

end

/-- The output that an untyped value makes, present or not. -/
def ofValue? : Option Value → Output
  | some v => present (value v)
  | none => absent

theorem itemValues_eq_map (items : List Output) :
    itemValues items = items.map fun item => item.toValue?.getD .null := by
  induction items with
  | nil => rfl
  | cons item rest ih => simp [itemValues, ih]

@[simp] theorem toValue?_ofValue? (v : Option Value) : (ofValue? v).toValue? = v := by
  cases v <;> rfl

mutual

/-- Equality of outputs, with the values in them compared as values. -/
def same : Output → Output → Bool
  | string a, string b => a == b
  | number a, number b => a.same b
  | bool a, bool b => a == b
  | value a, value b => a == b
  | object a, object b => Value.object a == Value.object b
  | array xs, array ys => sameItems xs ys
  | absent, absent => true
  | null, null => true
  | present a, present b => same a b
  | _, _ => false

/-- Item by item, and of one length. -/
def sameItems : List Output → List Output → Bool
  | [], [] => true
  | x :: xs, y :: ys => same x y && sameItems xs ys
  | _, _ => false

end

instance : BEq Output := ⟨same⟩

end Output

/-- A way to validate an input, present or not, that stands at a path. -/
abbrev Routine := Option Value → Path → Outcome Output

end JsonValidation
