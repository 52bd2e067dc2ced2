import JsonValidation.Proofs.Warming
import Mathlib.Data.List.Dedup
import Mathlib.Data.List.Perm.Subperm

/-!
# How many schemas a warming counts

A warming counts the registered schemas that are not compiled when their turn comes. A schema that is
a part of another registered one has been compiled by then if its turn is later, and is not counted
although the warming has compiled it. So the count depends on the order in which the entries are
enumerated, and it is short of the schemas that were compiled unless parts come before wholes.

* `ComesFirst`, `warmAll_counted`: which schemas are counted.
* `Session.pending`, `Session.outermost`: the slots that are compiled, and those of them that are
  counted in every order.
* `Session.WarmCounts`, `warm_counts`: the count in every order, its bounds, and when it is exact.
* `warm_count_short`: a registry with an order in which the count is short.
-/

namespace JsonValidation

open Store

/-- A schema of the list has the slot, and no schema before it has a node with this slot. -/
def ComesFirst (k : Slot) (schemas : List Schema) : Prop :=
  ∃ early s late, schemas = early ++ s :: late ∧ s.slot = k ∧ ∀ e ∈ early, ∀ n ∈ e.nodes, n.slot ≠ k

theorem comesFirst_cons {k : Slot} {s : Schema} {rest : List Schema} :
    ComesFirst k (s :: rest) ↔ s.slot = k ∨ (∀ n ∈ s.nodes, n.slot ≠ k) ∧ ComesFirst k rest := by
  constructor
  · rintro ⟨early, t, late, heq, hslot, hearly⟩
    cases early with
    | nil =>
      obtain ⟨rfl, -⟩ := List.cons.inj heq
      exact .inl hslot
    | cons e early =>
      obtain ⟨rfl, rfl⟩ := List.cons.inj heq
      obtain ⟨hs, hearly⟩ := List.forall_mem_cons.mp hearly
      exact .inr ⟨hs, early, t, late, rfl, hslot, hearly⟩
  · rintro (hslot | ⟨hs, early, t, late, rfl, hslot, hearly⟩)
    · exact ⟨[], s, rest, rfl, hslot, by simp⟩
    · exact ⟨s :: early, t, late, rfl, hslot, List.forall_mem_cons.mpr ⟨hs, hearly⟩⟩

/-- A pass counts the empty slots that come first. -/
theorem warmAll_counted {owner : Ownership} (schemas : List Schema) :
    ∀ σ : Store, σ.Coherent owner → (∀ s ∈ schemas, s.Placed owner σ.next) →
      ∃ counted : List Slot, counted.Nodup ∧ (warmAll schemas σ).1 = counted.length ∧
        ∀ k, k ∈ counted ↔ σ.populated k = false ∧ ComesFirst k schemas := by
  induction schemas with
  | nil => exact fun σ h _ => ⟨[], .nil, rfl, by simp [ComesFirst]⟩
  | cons s rest ih =>
    intro σ h hplaced
    obtain ⟨hs, hrest⟩ := List.forall_mem_cons.mp hplaced
    rw [warmAll]
    by_cases hp : s.isCompiled σ
    · -- all nodes of a compiled schema are compiled, so it stands in the way of no empty slot
      obtain ⟨counted, honce, hcount, hmem⟩ := ih σ h hrest
      refine ⟨counted, honce, by rw [if_pos hp, hcount], fun k => ?_⟩
      rw [hmem, comesFirst_cons]
      refine and_congr_right fun hempty => ?_
      have hnodes : ∀ n ∈ s.nodes, n.slot ≠ k := by
        rintro n hn rfl
        rw [h.nodes_populated hs hp n hn] at hempty
        cases hempty
      have hslot : s.slot ≠ k := by simpa using hnodes s.node s.node_mem_nodes
      exact ⟨fun hfirst => .inr ⟨hnodes, hfirst⟩, fun hfirst => (hfirst.resolve_left hslot).2⟩
    · obtain ⟨-, _, hcompiled⟩ := Schema.compile_compiled h hs
      rw [← hcompiled.next_eq] at hrest
      obtain ⟨counted, honce, hcount, hmem⟩ := ih _ hcompiled.coherent hrest
      have hpopulated : ∀ k, (s.compile σ).2.populated k = false ↔
          σ.populated k = false ∧ ∀ n ∈ s.nodes, n.slot ≠ k := by
        intro k
        rw [← Bool.not_eq_true, hcompiled.populated_iff, not_or, Bool.not_eq_true]
        simp
      refine ⟨s.slot :: counted, List.nodup_cons.mpr ⟨fun hk => ?_, honce⟩, ?_, fun k => ?_⟩
      · exact ((hpopulated s.slot).mp ((hmem s.slot).mp hk).1).2 s.node s.node_mem_nodes s.slot_node
      · rw [if_neg hp, List.length_cons, ← hcount]
      · rw [List.mem_cons, hmem, hpopulated, comesFirst_cons, and_assoc]
        constructor
        · rintro (rfl | ⟨hempty, hnodes, hfirst⟩)
          · exact ⟨Bool.not_eq_true _ ▸ hp, .inl rfl⟩
          · exact ⟨hempty, .inr ⟨hnodes, hfirst⟩⟩
        · rintro ⟨hempty, rfl | hlater⟩
          · exact .inl rfl
          · exact .inr ⟨hempty, hlater⟩

/-! ## Orders -/

variable {owner : Ownership} {bound : Slot} {schemas : List Schema}

/-- A slot that is below no schema of the list comes first. -/
theorem comesFirst_of_not_below {s : Schema} (hs : s ∈ schemas)
    (hbelow : ∀ t ∈ schemas, ∀ d ∈ t.descendants, d.slot ≠ s.slot) :
    ComesFirst s.slot schemas := by
  induction schemas with
  | nil => cases hs
  | cons t rest ih =>
    obtain ⟨ht, hrest⟩ := List.forall_mem_cons.mp hbelow
    rw [comesFirst_cons]
    by_cases hslot : t.slot = s.slot
    · exact .inl hslot
    · have hne : s ≠ t := fun heq => hslot (by rw [heq])
      refine .inr ⟨fun n hn => ?_, ih ((List.mem_cons.mp hs).resolve_left hne) hrest⟩
      rcases Schema.mem_nodes.mp hn with rfl | hn
      · simpa using hslot
      · exact ht n hn

/-- When slots increase along the list, parts come before wholes, and every slot comes first. -/
theorem comesFirst_of_increasing (hplaced : ∀ t ∈ schemas, t.Placed owner bound)
    (horder : schemas.Pairwise fun a b => a.slot ≤ b.slot) {s : Schema} (hs : s ∈ schemas) :
    ComesFirst s.slot schemas := by
  induction schemas with
  | nil => cases hs
  | cons t rest ih =>
    obtain ⟨ht, hrest⟩ := List.forall_mem_cons.mp hplaced
    obtain ⟨hfirst, hlater⟩ := List.pairwise_cons.mp horder
    rw [comesFirst_cons]
    by_cases hslot : t.slot = s.slot
    · exact .inl hslot
    · have hmem : s ∈ rest := by
        refine (List.mem_cons.mp hs).resolve_left ?_
        rintro rfl
        exact hslot rfl
      have hlt : t.slot < s.slot := Nat.lt_of_le_of_ne (hfirst s hmem) hslot
      refine .inr ⟨fun n hn => ?_, ih hrest hlater hmem⟩
      rcases Schema.mem_nodes.mp hn with rfl | hn
      · simpa using hslot
      · exact Nat.ne_of_lt (Nat.lt_trans (ht.slot_lt hn) hlt)

/-- When slots decrease along the list, wholes come before parts, and only slots that are below no
    schema of the list come first. -/
theorem not_below_of_decreasing (hplaced : ∀ t ∈ schemas, t.Placed owner bound)
    (horder : schemas.Pairwise fun a b => b.slot ≤ a.slot) {k : Slot} (hk : ComesFirst k schemas) :
    ∀ t ∈ schemas, ∀ d ∈ t.descendants, d.slot ≠ k := by
  obtain ⟨early, s, late, rfl, rfl, hearly⟩ := hk
  intro t ht d hd hslot
  have hlt : s.slot < t.slot := hslot ▸ (hplaced t ht).slot_lt hd
  rcases List.mem_append.mp ht with ht | ht
  · exact hearly t ht d (Schema.mem_nodes_of_mem_descendants hd) hslot
  · rcases List.mem_cons.mp ht with rfl | ht
    · exact Nat.lt_irrefl _ hlt
    · have hle := (List.pairwise_cons.mp (List.pairwise_append.mp horder).2.1).1 t ht
      exact Nat.not_lt.mpr hle hlt

namespace Session

/-- The slots of the registered nodes that are not compiled, each once. Nodes are told apart by their
    slots. -/
def pending (s : Session) : List Slot :=
  (s.registry.entries.map fun e => e.2.slot).dedup.filter fun k => !s.store.populated k

/-- Those of them that are below no other registered node. -/
def outermost (s : Session) : List Slot :=
  s.pending.filter fun k => decide (∀ e ∈ s.registry.entries, ∀ d ∈ e.2.descendants, d.slot ≠ k)

/-- The slots of the registered nodes that are compiled in a later store and were not before, each
    once. -/
def newlyCompiled (s : Session) (σ : Store) : List Slot :=
  s.pending.filter fun k => σ.populated k

/-- How many schemas a warming counts when the entries are enumerated in some order. -/
def warmCount (s : Session) (order : List (String × Schema)) : Nat :=
  (warmAll (order.map Prod.snd) s.store).1

variable {s : Session} {order : List (String × Schema)} {k : Slot}

theorem nodup_pending (s : Session) : s.pending.Nodup := (List.nodup_dedup _).filter _

theorem nodup_outermost (s : Session) : s.outermost.Nodup := s.nodup_pending.filter _

theorem mem_pending : k ∈ s.pending ↔
    (∃ t ∈ s.registry.entries.map Prod.snd, t.slot = k) ∧ s.store.populated k = false := by
  have hentries : (s.registry.entries.map fun e => e.2.slot) =
      (s.registry.entries.map Prod.snd).map Schema.slot := List.map_map.symm
  rw [pending, List.mem_filter, List.mem_dedup, hentries, List.mem_map, Bool.not_eq_true']

theorem mem_outermost : k ∈ s.outermost ↔
    k ∈ s.pending ∧ ∀ t ∈ s.registry.entries.map Prod.snd, ∀ d ∈ t.descendants, d.slot ≠ k := by
  simp only [outermost, List.mem_filter, decide_eq_true_eq, List.forall_mem_map]

/-- What warmings count at a state. Each order of the entries stands for a way to enumerate them. -/
structure WarmCounts (dialect : PatternDialect) (s : Session) : Prop where
  step_eq : ∀ order : List (String × Schema), order.Perm s.registry.entries →
    (s.step dialect (.warm (order.map Prod.fst))).2 = .warmed (s.warmCount order)
  /-- In every order the registered nodes that were not compiled are compiled afterwards. -/
  newlyCompiled_eq : ∀ order : List (String × Schema), order.Perm s.registry.entries →
    s.newlyCompiled (s.warmed order).store = s.pending
  /-- Those are counted that come first. -/
  counted : ∀ order : List (String × Schema), order.Perm s.registry.entries →
    ∃ counted : List Slot, counted.Nodup ∧ s.warmCount order = counted.length ∧
      ∀ k, k ∈ counted ↔ k ∈ s.pending ∧ ComesFirst k (order.map Prod.snd)
  /-- So the count is exact in an order in which no part comes after a whole. -/
  eq_iff : ∀ order : List (String × Schema), order.Perm s.registry.entries →
    (s.warmCount order = s.pending.length ↔
      ∀ k ∈ s.pending, ComesFirst k (order.map Prod.snd))
  /-- The count lies between two bounds, and each of them is met in some order. -/
  bounds : ∀ order : List (String × Schema), order.Perm s.registry.entries →
    s.outermost.length ≤ s.warmCount order ∧ s.warmCount order ≤ s.pending.length
  most : ∃ order : List (String × Schema), order.Perm s.registry.entries ∧
    s.warmCount order = s.pending.length
  least : ∃ order : List (String × Schema), order.Perm s.registry.entries ∧
    s.warmCount order = s.outermost.length
  /-- The count is exact in all orders when no registered node that is not compiled is below
      another registered node, and only then. -/
  exact_iff : (∀ order : List (String × Schema), order.Perm s.registry.entries →
    s.warmCount order = (s.newlyCompiled (s.warmed order).store).length) ↔
      ∀ k ∈ s.pending, ∀ t ∈ s.registry.entries.map Prod.snd, ∀ d ∈ t.descendants, d.slot ≠ k

variable {owner : Ownership}

theorem Sound.newlyCompiled_warmed (h : s.Sound owner) (horder : order.Perm s.registry.entries) :
    s.newlyCompiled (s.warmed order).store = s.pending := by
  refine List.filter_eq_self.mpr fun k hk => ?_
  obtain ⟨⟨t, ht, rfl⟩, -⟩ := mem_pending.mp hk
  refine isCompiled_warmAll h.coherent (h.placed_of_perm horder) t ?_
  exact (horder.map Prod.snd).mem_iff.mpr ht

/-- The slots that a warming counts. -/
theorem Sound.counted (h : s.Sound owner) (horder : order.Perm s.registry.entries) :
    ∃ counted : List Slot, counted.Nodup ∧ s.warmCount order = counted.length ∧
      ∀ k, k ∈ counted ↔ k ∈ s.pending ∧ ComesFirst k (order.map Prod.snd) := by
  obtain ⟨counted, honce, hcount, hmem⟩ :=
    warmAll_counted (order.map Prod.snd) s.store h.coherent (h.placed_of_perm horder)
  refine ⟨counted, honce, hcount, fun k => ?_⟩
  rw [hmem, mem_pending]
  constructor
  · rintro ⟨hempty, hfirst⟩
    refine ⟨⟨?_, hempty⟩, hfirst⟩
    obtain ⟨early, t, late, heq, hslot, -⟩ := hfirst
    exact ⟨t, (horder.map Prod.snd).mem_iff.mp (by simp [heq]), hslot⟩
  · rintro ⟨⟨-, hempty⟩, hfirst⟩
    exact ⟨hempty, hfirst⟩

theorem Sound.warmCount_eq_iff (h : s.Sound owner) (horder : order.Perm s.registry.entries) :
    s.warmCount order = s.pending.length ↔
      ∀ k ∈ s.pending, ComesFirst k (order.map Prod.snd) := by
  obtain ⟨counted, honce, hcount, hmem⟩ := h.counted horder
  have hsubset : counted ⊆ s.pending := fun k hk => ((hmem k).mp hk).1
  have hsub := honce.subperm hsubset
  rw [hcount]
  constructor
  · intro hlength k hk
    have hperm := hsub.perm_of_length_le (Nat.le_of_eq hlength.symm)
    exact ((hmem k).mp (hperm.mem_iff.mpr hk)).2
  · intro hall
    refine Nat.le_antisymm hsub.length_le ?_
    exact (s.nodup_pending.subperm fun k hk => (hmem k).mpr ⟨hk, hall k hk⟩).length_le

theorem Sound.warmCount_bounds (h : s.Sound owner) (horder : order.Perm s.registry.entries) :
    s.outermost.length ≤ s.warmCount order ∧ s.warmCount order ≤ s.pending.length := by
  obtain ⟨counted, honce, hcount, hmem⟩ := h.counted horder
  rw [hcount]
  refine ⟨(s.nodup_outermost.subperm fun k hk => ?_).length_le,
    (honce.subperm fun k hk => ((hmem k).mp hk).1).length_le⟩
  obtain ⟨hpending, hbelow⟩ := mem_outermost.mp hk
  obtain ⟨⟨t, ht, rfl⟩, -⟩ := mem_pending.mp hpending
  refine (hmem t.slot).mpr ⟨hpending, comesFirst_of_not_below ?_ fun u hu => hbelow u ?_⟩
  · exact (horder.map Prod.snd).mem_iff.mpr ht
  · exact (horder.map Prod.snd).mem_iff.mp hu

/-- The entries sorted by slots, in one direction or the other. -/
theorem exists_sorted (s : Session) (le : Slot → Slot → Bool)
    (htrans : ∀ a b c, le a b → le b c → le a c) (htotal : ∀ a b, le a b || le b a) :
    ∃ order : List (String × Schema), order.Perm s.registry.entries ∧
      (order.map Prod.snd).Pairwise fun a b => le a.slot b.slot := by
  refine ⟨s.registry.entries.mergeSort fun a b => le a.2.slot b.2.slot, List.mergeSort_perm _ _, ?_⟩
  exact List.pairwise_map.mpr (List.pairwise_mergeSort
    (fun a b c => htrans a.2.slot b.2.slot c.2.slot) (fun a b => htotal a.2.slot b.2.slot) _)

theorem Sound.exists_most (h : s.Sound owner) :
    ∃ order : List (String × Schema), order.Perm s.registry.entries ∧
      s.warmCount order = s.pending.length := by
  obtain ⟨order, horder, hsorted⟩ := s.exists_sorted (fun a b => decide (a ≤ b))
    (by simpa using fun a b c => Nat.le_trans) (by simpa using Nat.le_total)
  refine ⟨order, horder, (h.warmCount_eq_iff horder).mpr fun k hk => ?_⟩
  obtain ⟨⟨t, ht, rfl⟩, -⟩ := mem_pending.mp hk
  exact comesFirst_of_increasing (h.placed_of_perm horder) (by simpa using hsorted)
    ((horder.map Prod.snd).mem_iff.mpr ht)

theorem Sound.exists_least (h : s.Sound owner) :
    ∃ order : List (String × Schema), order.Perm s.registry.entries ∧
      s.warmCount order = s.outermost.length := by
  obtain ⟨order, horder, hsorted⟩ := s.exists_sorted (fun a b => decide (b ≤ a))
    (by simpa using fun a b c hba hcb => Nat.le_trans hcb hba)
    (by simpa using fun a b => Nat.le_total b a)
  obtain ⟨counted, honce, hcount, hmem⟩ := h.counted horder
  refine ⟨order, horder, Nat.le_antisymm ?_ (h.warmCount_bounds horder).1⟩
  rw [hcount]
  refine (honce.subperm fun k hk => ?_).length_le
  obtain ⟨hpending, hfirst⟩ := (hmem k).mp hk
  have hbelow := not_below_of_decreasing (h.placed_of_perm horder) (by simpa using hsorted) hfirst
  exact mem_outermost.mpr
    ⟨hpending, fun t ht => hbelow t ((horder.map Prod.snd).mem_iff.mpr ht)⟩

/-- **Counts.** What a warming counts at every state that can be reached, in whatever order the entries
    are enumerated. -/
theorem warm_counts (dialect : PatternDialect) (steps : List Step) :
    WarmCounts dialect (reached dialect steps) := by
  obtain ⟨owner, h⟩ := reached_sound dialect steps
  have hdistinct := distinct_reached dialect steps
  refine
    { step_eq := fun order horder => by rw [h.step_warm hdistinct dialect horder, warmCount]
      newlyCompiled_eq := fun order horder => h.newlyCompiled_warmed horder
      counted := fun order horder => h.counted horder
      eq_iff := fun order horder => h.warmCount_eq_iff horder
      bounds := fun order horder => h.warmCount_bounds horder
      most := h.exists_most
      least := h.exists_least
      exact_iff := ⟨fun hexact k hk => ?_, fun hbelow order horder => ?_⟩ }
  · -- the count is exact in the order in which it is least, too
    obtain ⟨order, horder, hleast⟩ := h.exists_least
    have hlength := hexact order horder
    rw [hleast, h.newlyCompiled_warmed horder] at hlength
    have hmem : k ∈ (reached dialect steps).outermost := by
      rw [outermost, List.length_filter_eq_length_iff] at hlength
      exact List.mem_filter.mpr ⟨hk, hlength k hk⟩
    exact (mem_outermost.mp hmem).2
  · rw [h.newlyCompiled_warmed horder]
    refine Nat.le_antisymm (h.warmCount_bounds horder).2 ?_
    refine Nat.le_trans ?_ (h.warmCount_bounds horder).1
    exact ((nodup_pending _).subperm fun k hk => mem_outermost.mpr ⟨hk, hbelow k hk⟩).length_le

/-- A warming compiles a list and the object that has it as a field, and counts only one of them when
    the object comes first. -/
theorem warm_count_short : ¬∀ (dialect : PatternDialect) (steps : List Step)
    (order : List (String × Schema)), order.Perm (reached dialect steps).registry.entries →
      ((reached dialect steps).step dialect (.warm (order.map Prod.fst))).2 =
        .warmed ((reached dialect steps).newlyCompiled
          ((reached dialect steps).warmed order).store).length := by
  intro hcount
  have hreply := hcount noPatterns registeredRun _
    (List.reverse_perm (reached noPatterns registeredRun).registry.entries)
  cases hreply

end Session

end JsonValidation
