import JsonValidation.Text.Join
import JsonValidation.Text.Quoted
import JsonValidation.Value.Basic

/-!
# Compact JSON text

No blanks; strings as `Text.quote` writes them, numbers as `Number.render` does, and the members of an
object in the order of their names.
-/

namespace JsonValidation.Value

mutual

/-- The compact text of a value. -/
def render : Value → String
  | null => "null"
  | bool true => "true"
  | bool false => "false"
  | number n => n.render
  | string s => Text.quote s
  | array items => "[" ++ Text.join "," (renderItems items) ++ "]"
  | object members => "\x7b" ++ Text.join "," (renderMembers members) ++ "\x7d"

/-- The texts of the items of an array. -/
def renderItems : List Value → List String
  | [] => []
  | item :: rest => render item :: renderItems rest

/-- The texts of the members of an object. -/
def renderMembers : List (String × Value) → List String
  | [] => []
  | (name, value) :: rest => (Text.quote name ++ ":" ++ render value) :: renderMembers rest

end

end JsonValidation.Value
