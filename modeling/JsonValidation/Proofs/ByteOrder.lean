import Mathlib.Tactic.SplitIfs

/-!
# The order of texts and of their bytes

Texts are ordered by code point. UTF-8 writes a larger code point in bytes that come later, so this is
also the order of the bytes that texts are written in.

* `Text.bytes`: the bytes of a text.
* `utf8EncodeChar_append_lt`: the bytes of two different characters decide, whatever follows them.
* `bytes_lt_iff`: the order of the bytes is the order of the texts.
-/

namespace JsonValidation.Text

/-- The bytes of a text, in UTF-8. -/
def bytes (s : String) : List UInt8 := s.toByteArray.data.toList

theorem bytes_eq_flatMap (s : String) : bytes s = s.toList.flatMap String.utf8EncodeChar := by
  rw [bytes]
  conv => lhs; rw [← String.ofList_toList (s := s)]
  rw [String.toByteArray_ofList, List.utf8Encode, List.toList_data_toByteArray]

theorem ofNat_cons_lt_iff {x y : Nat} (hx : x < 256) (hy : y < 256) {xs ys : List UInt8} :
    UInt8.ofNat x :: xs < UInt8.ofNat y :: ys ↔ x < y ∨ x = y ∧ xs < ys := by
  rw [List.cons_lt_cons_iff, UInt8.lt_iff_toNat_lt, ← UInt8.toNat_inj, UInt8.toNat_ofNat',
    UInt8.toNat_ofNat', Nat.mod_eq_of_lt hx, Nat.mod_eq_of_lt hy]

/-- Of two different characters the one with the smaller code point has the smaller bytes. -/
theorem utf8EncodeChar_append_lt {c d : Char} (h : c < d) (xs ys : List UInt8) :
    String.utf8EncodeChar c ++ xs < String.utf8EncodeChar d ++ ys := by
  have hlt : c.val.toNat < d.val.toNat := h
  have hd : d.val.toNat < 0x110000 := by
    rcases d.valid with hd | hd <;> omega
  unfold String.utf8EncodeChar
  dsimp only
  generalize c.val.toNat = v at *
  generalize d.val.toNat = w at *
  -- the first digit in which the code points differ decides
  have hdigits : v / 262144 < w / 262144 ∨ v / 262144 = w / 262144 ∧
      (v / 4096 % 64 < w / 4096 % 64 ∨ v / 4096 % 64 = w / 4096 % 64 ∧
        (v / 64 % 64 < w / 64 % 64 ∨ v / 64 % 64 = w / 64 % 64 ∧ v % 64 < w % 64)) := by omega
  have hv : v / 262144 < 8 := by omega
  have hw : w / 262144 < 8 := by omega
  rw [Nat.mod_eq_of_lt hv, Nat.mod_eq_of_lt hw]
  split_ifs <;>
    simp (disch := omega) only [List.cons_append, List.nil_append, ofNat_cons_lt_iff] <;> omega

theorem flatMap_utf8EncodeChar_lt {cs ds : List Char} (h : cs < ds) :
    cs.flatMap String.utf8EncodeChar < ds.flatMap String.utf8EncodeChar := by
  induction cs generalizing ds with
  | nil =>
    cases ds with
    | nil => exact absurd h (List.not_lt_nil [])
    | cons d ds =>
      cases hd : String.utf8EncodeChar d with
      | nil => exact absurd hd String.utf8EncodeChar_ne_nil
      | cons b bs =>
        rw [List.flatMap_cons, hd]
        exact List.nil_lt_cons _ _
  | cons c cs ih =>
    cases ds with
    | nil => exact absurd h (List.not_lt_nil _)
    | cons d ds =>
      rw [List.flatMap_cons, List.flatMap_cons]
      rcases List.cons_lt_cons_iff.mp h with hlt | ⟨rfl, hlt⟩
      · exact utf8EncodeChar_append_lt hlt _ _
      · exact List.append_left_lt (ih hlt)

theorem bytes_lt {s t : String} (h : s < t) : bytes s < bytes t := by
  rw [bytes_eq_flatMap, bytes_eq_flatMap]
  exact flatMap_utf8EncodeChar_lt h

/-- **Byte order.** The order of texts by code point is the order of their bytes. -/
theorem bytes_lt_iff {s t : String} : bytes s < bytes t ↔ s < t := by
  refine ⟨fun h => ?_, bytes_lt⟩
  by_cases hlt : s < t
  · exact hlt
  · -- neither a smaller text nor an equal one has larger bytes
    by_cases hgt : t < s
    · exact absurd (bytes_lt hgt) (List.lt_asymm h)
    · obtain rfl := String.le_antisymm (String.not_lt.mp hgt) (String.not_lt.mp hlt)
      exact absurd h (List.lt_irrefl _)

end JsonValidation.Text
