/-!
# Joining texts

* `join_append`: joining two nonempty lists of texts one after the other is joining each and then
  both.
* `join_splice`: a text that was joined from others can stand in their place.
-/

namespace JsonValidation.Text

/-- The texts of a list with a separator between each two. -/
def join (separator : String) : List String → String
  | [] => ""
  | [s] => s
  | s :: t :: rest => s ++ separator ++ join separator (t :: rest)

@[simp] theorem join_nil (separator : String) : join separator [] = "" := rfl

@[simp] theorem join_singleton (separator s : String) : join separator [s] = s := rfl

theorem join_cons (separator s : String) {rest : List String} (h : rest ≠ []) :
    join separator (s :: rest) = s ++ separator ++ join separator rest := by
  cases rest with
  | nil => exact absurd rfl h
  | cons t rest => rfl

theorem join_append (separator : String) {ss ts : List String} (hs : ss ≠ []) (ht : ts ≠ []) :
    join separator (ss ++ ts) = join separator ss ++ separator ++ join separator ts := by
  induction ss with
  | nil => exact absurd rfl hs
  | cons s rest ih =>
    rcases rest with _ | ⟨t, rest⟩
    · simp [join_cons _ _ ht]
    · have happ : t :: rest ++ ts ≠ [] := by simp
      have hrest : t :: rest ≠ [] := by simp
      rw [List.cons_append, join_cons _ _ happ, ih hrest, join_cons _ _ hrest]
      simp only [String.append_assoc]

/-- Texts that were joined before can be joined with others as one text. -/
theorem join_splice (separator : String) {ss : List String} (hs : ss ≠ []) (early late : List String) :
    join separator (early ++ [join separator ss] ++ late) = join separator (early ++ ss ++ late) := by
  have hlate : join separator (join separator ss :: late) = join separator (ss ++ late) := by
    cases late with
    | nil => rw [join_singleton, List.append_nil]
    | cons t rest => rw [join_cons _ _ (List.cons_ne_nil t rest), join_append _ hs (List.cons_ne_nil t rest)]
  cases early with
  | nil => exact hlate
  | cons s rest =>
    have happend : ss ++ late ≠ [] := List.append_ne_nil_of_left_ne_nil hs late
    rw [List.append_assoc, List.append_assoc, List.singleton_append,
      join_append _ (List.cons_ne_nil s rest) (List.cons_ne_nil _ late),
      join_append _ (List.cons_ne_nil s rest) happend, hlate]

end JsonValidation.Text
