/-!
# Ordered fields

The fields of an object schema keep the order in which their names were first declared. Declaring a
name again replaces its field in place.

* `Shape.ofList`, `Shape.extend`: many declarations, and those of another shape, one by one.
* `lookup_declare`: the field that is found is the one declared last.
* `mem_declare`, `mem_extend`: every field comes from some declaration.
-/

namespace JsonValidation.Shape

variable {α : Type}

/-- Declares a field: in the place of the field with this name, or at the end. -/
def declare (fields : List (String × α)) (name : String) (field : α) : List (String × α) :=
  match fields with
  | [] => [(name, field)]
  | (key, old) :: rest =>
    if key = name then (name, field) :: rest else (key, old) :: declare rest name field

/-- The fields of a list of declarations (`ObjectSchema::from_shape`). -/
def ofList (declarations : List (String × α)) : List (String × α) :=
  declarations.foldl (fun fields (name, field) => declare fields name field) []

/-- The fields of one shape, and then those of another (`ObjectSchema::extend`). -/
def extend (fields other : List (String × α)) : List (String × α) :=
  other.foldl (fun fields (name, field) => declare fields name field) fields

/-- The field with a name. -/
def lookup? (fields : List (String × α)) (name : String) : Option α :=
  match fields with
  | [] => none
  | (key, field) :: rest => if key = name then some field else lookup? rest name

/-- The names in the order of their declaration. -/
def names (fields : List (String × α)) : List String := fields.map Prod.fst

theorem lookup_declare (fields : List (String × α)) (name : String) (field : α) (key : String) :
    lookup? (declare fields name field) key =
      if name = key then some field else lookup? fields key := by
  induction fields with
  | nil => rfl
  | cons first rest ih =>
    obtain ⟨other, old⟩ := first
    unfold declare
    split
    · rename_i h
      subst h
      by_cases hk : other = key <;> simp [lookup?, hk]
    · rename_i h
      by_cases hk : other = key
      · subst hk
        simp [lookup?, Ne.symm h]
      · simp [lookup?, hk, ih]

theorem mem_declare {fields : List (String × α)} {name : String} {field : α} {f : String × α}
    (h : f ∈ declare fields name field) : f = (name, field) ∨ f ∈ fields := by
  induction fields with
  | nil => exact .inl (List.mem_singleton.mp h)
  | cons first rest ih =>
    obtain ⟨key, old⟩ := first
    unfold declare at h
    split at h
    · rcases List.mem_cons.mp h with h | h
      · exact .inl h
      · exact .inr (List.mem_cons_of_mem _ h)
    · rcases List.mem_cons.mp h with h | h
      · exact .inr (List.mem_cons.mpr (.inl h))
      · exact (ih h).imp_right (List.mem_cons_of_mem _)

theorem mem_extend {other : List (String × α)} {f : String × α} :
    ∀ {fields : List (String × α)}, f ∈ extend fields other → f ∈ fields ∨ f ∈ other := by
  induction other with
  | nil => exact fun h => .inl h
  | cons first rest ih =>
    intro fields h
    rcases ih h with h | h
    · exact (mem_declare h).symm.imp_right fun h => List.mem_cons.mpr (.inl h)
    · exact .inr (List.mem_cons_of_mem _ h)

theorem mem_ofList {declarations : List (String × α)} {f : String × α}
    (h : f ∈ ofList declarations) : f ∈ declarations := by
  have h : f ∈ extend [] declarations := h
  exact (mem_extend h).resolve_left List.not_mem_nil

theorem mem_of_lookup? {fields : List (String × α)} {name : String} {field : α}
    (h : lookup? fields name = some field) : (name, field) ∈ fields := by
  induction fields with
  | nil => cases h
  | cons first rest ih =>
    obtain ⟨key, old⟩ := first
    unfold lookup? at h
    split at h
    · rename_i hkey
      obtain rfl := Option.some.inj h
      rw [hkey]
      exact List.mem_cons_self
    · exact List.mem_cons_of_mem _ (ih h)

end JsonValidation.Shape
