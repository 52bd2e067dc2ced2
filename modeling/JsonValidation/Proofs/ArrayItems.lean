import JsonValidation.Proofs.Outcomes
import JsonValidation.Proofs.PathThreading
import JsonValidation.Proofs.SameOutcomes

/-!
# Items of arrays

An array is checked in two rounds. Its length comes first, the minimum before the maximum, and a length
out of bounds is a failure of the array itself whatever its items are. Then the items are validated in
their order up to the first failure. So the outcome of an array that is put together from two parts is
decided by the first part, and else by the second one with its positions moved on.

* `ArraySettings.InBounds`: the lengths that are not a failure.
* `Routine.FirstFailure`, `Routine.AllSucceed`: what becomes of the items. `eachItem_eq_error_iff`: the
  loop over the items finds the first failure.
* `eachItem_append`, `Routine.Threads.firstFailure_later`: two parts, and a part that stands further
  behind.
* `Schema.ReadsItems`, `arrays_split`: arrays, run in any way.
-/

namespace JsonValidation

/-! ## Lengths -/

namespace ArraySettings

variable {settings : ArraySettings} {c : Constraint Nat} {length : Nat}

/-- A length that is neither too small nor too large. -/
structure InBounds (settings : ArraySettings) (length : Nat) : Prop where
  min_le : ∀ c, settings.minLen = some c → c.value ≤ length
  le_max : ∀ c, settings.maxLen = some c → length ≤ c.value

/-- No length is too small or too large. -/
def Unbounded (settings : ArraySettings) : Prop := settings.minLen = none ∧ settings.maxLen = none

theorem Unbounded.inBounds (h : settings.Unbounded) (length : Nat) : settings.InBounds length where
  min_le c hc := by
    rw [h.1] at hc
    cases hc
  le_max c hc := by
    rw [h.2] at hc
    cases hc

theorem minLenViolation_of_le (h : c.value ≤ length) : minLenViolation c length = none :=
  if_neg (Nat.not_lt.mpr h)

theorem maxLenViolation_of_le (h : length ≤ c.value) : maxLenViolation c length = none :=
  if_neg (Nat.not_lt.mpr h)

theorem bind_minLenViolation (h : ∀ c, settings.minLen = some c → c.value ≤ length) :
    settings.minLen.bind (minLenViolation · length) = none := by
  cases hmin : settings.minLen with
  | none => rfl
  | some c => exact minLenViolation_of_le (h c hmin)

theorem violation?_of_inBounds (h : settings.InBounds length) : settings.violation? length = none := by
  rw [violation?, bind_minLenViolation h.min_le]
  cases hmax : settings.maxLen with
  | none => rfl
  | some c => exact maxLenViolation_of_le (h.le_max c hmax)

theorem violation?_of_short (hc : settings.minLen = some c) (h : length < c.value) :
    settings.violation? length = some (.lengthOutOfBounds,
      c.message.getD ("Array must contain at least " ++ Nat.repr c.value ++ " element(s)")) := by
  rw [violation?, hc, Option.bind_some, minLenViolation, if_pos h]
  rfl

theorem violation?_of_long (hmin : ∀ c, settings.minLen = some c → c.value ≤ length)
    (hc : settings.maxLen = some c) (h : c.value < length) :
    settings.violation? length = some (.lengthOutOfBounds,
      c.message.getD ("Array must contain at most " ++ Nat.repr c.value ++ " element(s)")) := by
  rw [violation?, bind_minLenViolation hmin, hc]
  show maxLenViolation c length = _
  rw [maxLenViolation, if_pos h]
  rfl

end ArraySettings

/-! ## Items in their order -/

/-- An array that is put together from two parts: the second one only counts if the first one
    succeeds, and its positions go on where the first part ends. -/
theorem eachItem_append (check : Value → Path → Outcome Output) (path : Path) (start : Nat)
    (xs ys : List Value) : eachItem check path start (xs ++ ys) =
      match eachItem check path start xs with
      | .error f => .error f
      | .ok outputs => (eachItem check path (start + xs.length) ys).map (outputs ++ ·) := by
  induction xs generalizing start with
  | nil =>
    rw [List.nil_append, eachItem]
    cases eachItem check path (start + 0) ys <;> rfl
  | cons value rest ih =>
    rw [List.cons_append, eachItem, eachItem, ih, List.length_cons, Nat.add_assoc, Nat.add_comm 1]
    cases check value (path.pushIndex start) with
    | error g => rfl
    | ok o =>
      cases eachItem check path (start + 1) rest with
      | error g => rfl
      | ok outputs => cases eachItem check path (start + (rest.length + 1)) ys <;> rfl

namespace Routine

variable {item : Routine} {path p : Path} {start : Nat} {items : List Value} {value : Value}
  {outputs : List Output} {o : Output} {f : Failure}

/-- This is the failure of the item with the least position that fails. Positions count from a start. -/
def FirstFailure (item : Routine) (path : Path) (start : Nat) (items : List Value) (f : Failure) :
    Prop :=
  ∃ i value, items[i]? = some value ∧ item (some value) (path.pushIndex (start + i)) = .error f ∧
    ∀ j < i, ∀ other, items[j]? = some other →
      ∃ o, item (some other) (path.pushIndex (start + j)) = .ok o

/-- All items succeed, and these are their outputs in their order. -/
def AllSucceed (item : Routine) (path : Path) (start : Nat) (items : List Value)
    (outputs : List Output) : Prop :=
  outputs.length = items.length ∧ ∀ (i : Nat) value output, items[i]? = some value →
    outputs[i]? = some output → item (some value) (path.pushIndex (start + i)) = .ok output

theorem firstFailure_cons : FirstFailure item path start (value :: items) f ↔
    item (some value) (path.pushIndex start) = .error f ∨
      (∃ o, item (some value) (path.pushIndex start) = .ok o) ∧
        FirstFailure item path (start + 1) items f := by
  have hnext : ∀ i, start + 1 + i = start + (i + 1) := fun i => by omega
  constructor
  · rintro ⟨i, failing, hfailing, hf, hearlier⟩
    cases i with
    | zero =>
      obtain rfl := Option.some.inj hfailing
      exact .inl hf
    | succ i =>
      refine .inr ⟨hearlier 0 (Nat.succ_pos i) value rfl, i, failing, hfailing, ?_, ?_⟩
      · rwa [hnext]
      · intro j hj other hother
        rw [hnext]
        exact hearlier (j + 1) (Nat.succ_lt_succ hj) other hother
  · rintro (hf | ⟨hvalue, i, failing, hfailing, hf, hearlier⟩)
    · exact ⟨0, value, rfl, hf, fun j hj => absurd hj (Nat.not_lt_zero j)⟩
    · refine ⟨i + 1, failing, hfailing, by rwa [← hnext], fun j hj other hother => ?_⟩
      cases j with
      | zero =>
        obtain rfl := Option.some.inj hother
        exact hvalue
      | succ j =>
        rw [← hnext]
        exact hearlier j (Nat.lt_of_succ_lt_succ hj) other hother

/-- The loop over the items stops at the first one that fails. -/
theorem eachItem_eq_error_iff : eachItem (fun value => item (some value)) path start items = .error f ↔
    item.FirstFailure path start items f := by
  induction items generalizing start with
  | nil =>
    refine iff_of_false nofun ?_
    rintro ⟨i, value, hvalue, -⟩
    cases hvalue
  | cons value rest ih =>
    rw [firstFailure_cons, ← ih, eachItem]
    cases item (some value) (path.pushIndex start) with
    | error g => simp
    | ok o => cases eachItem (fun value => item (some value)) path (start + 1) rest <;> simp

/-- There is a first failure unless all items succeed. -/
theorem firstFailure_or_allSucceed (item : Routine) (path : Path) (start : Nat) (items : List Value) :
    (∃ f, item.FirstFailure path start items f) ∨
      ∃ outputs, item.AllSucceed path start items outputs := by
  cases h : eachItem (fun value => item (some value)) path start items with
  | error f => exact .inl ⟨f, eachItem_eq_error_iff.mp h⟩
  | ok outputs => exact .inr ⟨outputs, eachItem_eq_ok.mp h⟩

/-! ## Items at other positions -/

/-- An input that is accepted at one place has the same output everywhere. -/
theorem Threads.ok_anywhere (h : item.Threads) {input : Option Value} (hp : item input p = .ok o)
    (q : Path) : item input q = .ok o := by
  rw [← Path.append_root p, h] at hp
  rw [← Path.append_root q, h]
  cases hroot : item input .root with
  | error f =>
    rw [hroot] at hp
    cases hp
  | ok output =>
    rw [hroot] at hp
    exact hp

/-- An input that is not accepted has the same failure everywhere, below the place where it stands. -/
theorem Threads.error_anywhere (h : item.Threads) {input : Option Value} (hp : item input p = .error f) :
    ∃ rest, f.path = p ++ rest ∧ ∀ q, item input q = .error { f with path := q ++ rest } := by
  rw [← Path.append_root p, h] at hp
  cases hroot : item input .root with
  | ok output =>
    rw [hroot] at hp
    cases hp
  | error g =>
    rw [hroot] at hp
    cases hp
    refine ⟨g.path, rfl, fun q => ?_⟩
    rw [← Path.append_root q, h, hroot, Path.append_root]
    rfl

/-- Outputs do not depend on the positions of the items. -/
theorem Threads.allSucceed_later (h : item.Threads) (hall : item.AllSucceed path start items outputs)
    (offset : Nat) : item.AllSucceed path offset items outputs :=
  ⟨hall.1, fun i value output hvalue houtput => h.ok_anywhere (hall.2 i value output hvalue houtput) _⟩

/-- The first failure is that of the same item at all positions, and shows the position of the item
    right behind the path of the array. -/
theorem Threads.firstFailure_later (h : item.Threads) (hfirst : item.FirstFailure path start items f)
    (offset : Nat) : ∃ i < items.length, ∃ rest, f.path = path.pushIndex (start + i) ++ rest ∧
      item.FirstFailure path offset items { f with path := path.pushIndex (offset + i) ++ rest } := by
  obtain ⟨i, value, hvalue, hf, hearlier⟩ := hfirst
  obtain ⟨rest, hpath, hanywhere⟩ := h.error_anywhere hf
  refine ⟨i, (List.getElem?_eq_some_iff.mp hvalue).1, rest, hpath, i, value, hvalue, hanywhere _, ?_⟩
  intro j hj other hother
  obtain ⟨o, ho⟩ := hearlier j hj other hother
  exact ⟨o, h.ok_anywhere ho _⟩

end Routine

/-! ## Arrays -/

namespace Schema

variable {s : Schema} {slot slot' : Slot} {element : Schema} {settings unbounded : ArraySettings}
  {zs : List Value} {path : Path}

/-- The element schema of an array and its settings. -/
def array? : Schema → Option (Schema × ArraySettings)
  | array _ element settings => some (element, settings)
  | shared _ inner => inner.array?
  | _ => none

theorem exists_array (h : s.array? = some (element, settings)) :
    ∃ slot, s.node = array slot element settings := by
  induction s with
  | array slot element settings =>
    cases h
    exact ⟨slot, rfl⟩
  | shared access inner ih => exact ih h
  | _ => cases h

theorem interpret_array_of_violation {message : String}
    (h : settings.violation? zs.length = some (.lengthOutOfBounds, message)) :
    (array slot element settings).interpret (some (.array zs)) path =
      .error ⟨path, .lengthOutOfBounds, message, some (.array zs)⟩ := by
  rw [interpret, h]
  rfl

theorem interpret_array_of_inBounds (h : settings.InBounds zs.length) :
    (array slot element settings).interpret (some (.array zs)) path =
      (eachItem (fun value => element.interpret (some value)) path 0 zs).map .array := by
  rw [interpret, ArraySettings.violation?_of_inBounds h]
  cases eachItem (fun value => element.interpret (some value)) path 0 zs <;> rfl

/-- What a run of an array schema has to do with the items of its input, given a run of the element
    schema and a run of an array schema that has the same element schema but no bounds. -/
structure ReadsItems (settings : ArraySettings) (item free run : Routine) : Prop where
  /-- A length that is too small is a failure of the array, before anything else. -/
  short : ∀ zs path c, settings.minLen = some c → zs.length < c.value →
    run (some (.array zs)) path = .error ⟨path, .lengthOutOfBounds,
      c.message.getD ("Array must contain at least " ++ Nat.repr c.value ++ " element(s)"),
      some (.array zs)⟩
  /-- A length that is too large comes next. -/
  long : ∀ zs path c, (∀ m, settings.minLen = some m → m.value ≤ zs.length) →
    settings.maxLen = some c → c.value < zs.length →
      run (some (.array zs)) path = .error ⟨path, .lengthOutOfBounds,
        c.message.getD ("Array must contain at most " ++ Nat.repr c.value ++ " element(s)"),
        some (.array zs)⟩
  /-- All other arrays fail like the item with the least position that fails, -/
  error_iff : ∀ zs path f, settings.InBounds zs.length →
    (run (some (.array zs)) path = .error f ↔ item.FirstFailure path 0 zs f)
  /-- and succeed if all items do. -/
  ok_iff : ∀ zs path o, settings.InBounds zs.length → (run (some (.array zs)) path = .ok o ↔
    ∃ outputs, item.AllSucceed path 0 zs outputs ∧ o = .array outputs)
  /-- A part has a first failure or succeeds. -/
  decided : ∀ xs path, (∃ f, item.FirstFailure path 0 xs f) ∨ ∃ outputs, item.AllSucceed path 0 xs outputs
  /-- Of two parts, a failure of the first one is the failure of the array. -/
  first : ∀ xs ys path f, settings.InBounds (xs ++ ys).length → item.FirstFailure path 0 xs f →
    run (some (.array (xs ++ ys))) path = .error f
  /-- If the first part succeeds, a failure of the second one is, with the position moved on. -/
  second : ∀ xs ys path outputs f, settings.InBounds (xs ++ ys).length →
    item.AllSucceed path 0 xs outputs → free (some (.array ys)) path = .error f →
      ∃ i < ys.length, ∃ rest, f.path = path.pushIndex i ++ rest ∧
        run (some (.array (xs ++ ys))) path =
          .error { f with path := path.pushIndex (xs.length + i) ++ rest }
  /-- If both succeed, their outputs are put together. -/
  both : ∀ xs ys path outputs o, settings.InBounds (xs ++ ys).length →
    item.AllSucceed path 0 xs outputs → free (some (.array ys)) path = .ok o →
      ∃ later, o = .array later ∧ (outputs ++ later).length = (xs ++ ys).length ∧
        run (some (.array (xs ++ ys))) path = .ok (.array (outputs ++ later))

theorem readsItems (hfree : unbounded.Unbounded) : ReadsItems settings element.interpret
    (array slot' element unbounded).interpret (array slot element settings).interpret where
  short zs path c hc h := interpret_array_of_violation (ArraySettings.violation?_of_short hc h)
  long zs path c hmin hc h :=
    interpret_array_of_violation (ArraySettings.violation?_of_long hmin hc h)
  error_iff zs path f h := by
    rw [interpret_array_of_inBounds h, ← Routine.eachItem_eq_error_iff, map_eq_error]
  ok_iff zs path o h := by
    rw [interpret_array_of_inBounds h, map_eq_ok]
    exact exists_congr fun outputs => and_congr eachItem_eq_ok Iff.rfl
  decided xs path := Routine.firstFailure_or_allSucceed element.interpret path 0 xs
  first xs ys path f h hfirst := by
    rw [interpret_array_of_inBounds h, eachItem_append,
      Routine.eachItem_eq_error_iff.mpr hfirst]
    rfl
  second xs ys path outputs f h hall hf := by
    rw [interpret_array_of_inBounds (hfree.inBounds _), map_eq_error,
      Routine.eachItem_eq_error_iff] at hf
    obtain ⟨i, hi, rest, hpath, hlater⟩ :=
      Routine.Threads.firstFailure_later element.interpret_under hf xs.length
    rw [Nat.zero_add] at hpath
    refine ⟨i, hi, rest, hpath, ?_⟩
    -- behind `xs` the loop goes on at position `xs.length`, where `ys` has this failure
    rw [interpret_array_of_inBounds h, eachItem_append, eachItem_eq_ok.mpr hall,
      Nat.zero_add]
    dsimp only
    rw [Routine.eachItem_eq_error_iff.mpr hlater]
    rfl
  both xs ys path outputs o h hall ho := by
    rw [interpret_array_of_inBounds (hfree.inBounds _), map_eq_ok] at ho
    obtain ⟨later, hlater, rfl⟩ := ho
    have hys := Routine.Threads.allSucceed_later element.interpret_under (eachItem_eq_ok.mp hlater)
      xs.length
    refine ⟨later, rfl, ?_, ?_⟩
    · rw [List.length_append, List.length_append, hall.1, hys.1]
    · rw [interpret_array_of_inBounds h, eachItem_append, eachItem_eq_ok.mpr hall,
        Nat.zero_add]
      dsimp only
      rw [eachItem_eq_ok.mpr hys]
      rfl

/-- **Arrays.** Whichever way an array schema is run, a length out of bounds comes first, then the item
    with the least position that fails, and the outcome for an array of two parts is the outcome for the
    first part or else that for the second one alone, further behind. -/
theorem arrays_split (s t element element' : Schema) (settings unbounded : ArraySettings)
    (hs : s.array? = some (element, settings)) (ht : t.array? = some (element', unbounded))
    (hfree : unbounded.Unbounded) (hsame : element.SameOutcomes element') (item free run : Routine)
    (hitem : element.RunBy item) (hfree_run : t.RunBy free) (hrun : s.RunBy run) :
    ReadsItems settings item free run := by
  obtain ⟨slot, hslot⟩ := exists_array hs
  obtain ⟨slot', hslot'⟩ := exists_array ht
  have helement : element'.interpret = element.interpret :=
    funext fun input => funext fun path => (hsame _ _ .interpreted .interpreted input path).symm
  have hunbounded : t.interpret = (array slot' element unbounded).interpret := by
    rw [← interpret_node, hslot', ← routine_array, helement, routine_array]
  rw [hitem.eq_interpret, hfree_run.eq_interpret, hrun.eq_interpret, hunbounded, ← interpret_node s,
    hslot]
  exact readsItems hfree

/-- Arrays of words: between one and three of them, compiled, and any number. -/
def wordListsRun : List Session.Step :=
  [.define "word" (.string (some 1) none none),
    .define "few" (.array (.share "word") { minLen := some 1, maxLen := some 3 }),
    .compile "few",
    .define "any" (.array (.share "word") {})]

open Session (reached noPatterns) in
/-- The empty word is at position zero of its own array, and at position two behind two other words. Of
    four items that are no words only the number is reported. -/
theorem arrays_split_words : ∃ word ∈ (reached noPatterns wordListsRun).nodes,
    ∃ few ∈ (reached noPatterns wordListsRun).nodes, ∃ free ∈ (reached noPatterns wordListsRun).nodes,
      ReadsItems (.ofOptions { minLen := some 1, maxLen := some 3 }) word.interpret
        (fun input path => (free.validate input path (reached noPatterns wordListsRun).store).1)
        (fun input path => (few.validate input path (reached noPatterns wordListsRun).store).1) ∧
      (free.validate (some (.array [.string ""])) (.ofField "body")
          (reached noPatterns wordListsRun).store).1 =
        .error ⟨⟨[.field "body", .index 0]⟩, .lengthOutOfBounds, "String must be at least 1 characters",
          some (.string "")⟩ ∧
      (few.validate (some (.array [.string "a", .string "b", .string ""])) (.ofField "body")
          (reached noPatterns wordListsRun).store).1 =
        .error ⟨⟨[.field "body", .index 2]⟩, .lengthOutOfBounds, "String must be at least 1 characters",
          some (.string "")⟩ ∧
      (few.validate (some (.array [.null, .null, .null, .null])) (.ofField "body")
          (reached noPatterns wordListsRun).store).1 =
        .error ⟨.ofField "body", .lengthOutOfBounds, "Array must contain at most 3 element(s)",
          some (.array [.null, .null, .null, .null])⟩ := by
  have hword := List.mem_of_getElem? (l := (reached noPatterns wordListsRun).nodes) (i := 0) rfl
  have hfew := List.mem_of_getElem? (l := (reached noPatterns wordListsRun).nodes) (i := 1) rfl
  have hfree := List.mem_of_getElem? (l := (reached noPatterns wordListsRun).nodes) (i := 3) rfl
  refine ⟨_, hword, _, hfew, _, hfree, ?_, rfl, rfl, rfl⟩
  refine arrays_split _ _ ?element ?element _ ?unbounded ?few_eq ?free_eq ?unbounded_eq
    (.of_interpret_eq rfl) _ _ _ ?item (.of_mem_nodes hfree) (.of_mem_nodes hfew)
  case few_eq => rfl
  case free_eq => rfl
  case unbounded_eq => exact ⟨rfl, rfl⟩
  case item => exact .interpreted

end Schema

end JsonValidation
