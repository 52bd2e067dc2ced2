import JsonValidation.Number.Basic

/-!
# JSON values

The members of an object are kept in the order of their names, by code point, and a name occurs once.
`insert` keeps it so, and `Value.lookup` reads a member.

* `Value.same`: equality as values. Integers and binary64 numbers never equal each other, and the two
  binary64 zeros do.
* `lookup_insert`: the member that is found is the one inserted last.
-/

namespace JsonValidation

/-- A JSON value. -/
inductive Value where
  | null
  | bool (b : Bool)
  | number (n : Number)
  | string (s : String)
  | array (items : List Value)
  | object (members : List (String × Value))
deriving Inhabited

/-- The members of an object, sorted by name. -/
abbrev Members := List (String × Value)

namespace Members

/-- The value of the member with a name. -/
def lookup (name : String) : Members → Option Value
  | [] => none
  | (key, value) :: rest => if key = name then some value else lookup name rest

/-- Sets a member, in the place that its name has in the order. -/
def insert (name : String) (value : Value) : Members → Members
  | [] => [(name, value)]
  | (key, old) :: rest =>
    if name < key then (name, value) :: (key, old) :: rest
    else if name = key then (name, value) :: rest
    else (key, old) :: insert name value rest

theorem lookup_insert (name : String) (value : Value) (members : Members) (key : String) :
    lookup key (insert name value members) =
      if name = key then some value else lookup key members := by
  induction members with
  | nil => simp [insert, lookup]
  | cons member rest ih =>
    obtain ⟨other, old⟩ := member
    unfold insert
    split
    · simp [lookup]
    · split
      · rename_i h; subst h; by_cases hk : name = key <;> simp [lookup, hk]
      · rename_i h
        by_cases hk : other = key
        · subst hk; simp [lookup, h]
        · simp [lookup, hk, ih]

end Members

namespace Value

/-- What a value is called in messages (`validation::value_type_name`). -/
def typeName : Value → String
  | null => "null"
  | bool _ => "boolean"
  | number _ => "number"
  | string _ => "string"
  | array _ => "array"
  | object _ => "object"

/-- The member of an object with a name; nothing for any other value. -/
def member? (name : String) : Value → Option Value
  | object members => Members.lookup name members
  | _ => none

mutual

/-- Equality as values. -/
def same : Value → Value → Bool
  | null, null => true
  | bool a, bool b => a == b
  | number a, number b => a.same b
  | string a, string b => a == b
  | array xs, array ys => sameItems xs ys
  | object xs, object ys => sameMembers xs ys
  | _, _ => false

/-- Item by item, and of one length. -/
def sameItems : List Value → List Value → Bool
  | [], [] => true
  | x :: xs, y :: ys => same x y && sameItems xs ys
  | _, _ => false

/-- Member by member, with the same names. -/
def sameMembers : List (String × Value) → List (String × Value) → Bool
  | [], [] => true
  | (k, x) :: xs, (l, y) :: ys => k == l && same x y && sameMembers xs ys
  | _, _ => false

end

instance : BEq Value := ⟨same⟩

end Value

end JsonValidation
