/-!
# Length in UTF-16 code units

A character outside the basic plane takes two code units, every other character one.
-/

namespace JsonValidation.Text

/-- How many UTF-16 code units a character takes. -/
def unitsOfChar (c : Char) : Nat := if c.val < 0x10000 then 1 else 2

/-- The length of a text in UTF-16 code units (`string::code_units`). -/
def units16 (s : String) : Nat := s.toList.foldr (fun c units => unitsOfChar c + units) 0

@[simp] theorem units16_empty : units16 "" = 0 := rfl

theorem units16_append (s t : String) : units16 (s ++ t) = units16 s + units16 t := by
  have happend : ∀ (cs : List Char) (units : Nat),
      cs.foldr (fun c units => unitsOfChar c + units) units =
        cs.foldr (fun c units => unitsOfChar c + units) 0 + units := by
    intro cs units
    induction cs with
    | nil => simp
    | cons c rest ih => rw [List.foldr_cons, List.foldr_cons, ih, Nat.add_assoc]
  rw [units16, String.toList_append, List.foldr_append, happend]
  rfl

end JsonValidation.Text
