import ClientGen.Proofs.Middleware.Registration
import Mathlib.Data.List.Nodup
import Mathlib.Order.Lattice.Nat

/-!
# The order of one phase

The greedy rule is stated here on the entries themselves: an entry counts as early as the earliest
entry that its constraints lead to, and of those that nothing holds back the earliest comes next.
The phase of a coherent registry is arranged by this rule, and only one order follows it.
-/

namespace ClientGen

namespace Registry

open Relation

/-! ## The greedy rule on entries -/

/-- The least place in the base order among the entry and all that constraints lead from it to. -/
noncomputable def key (r : Registry) (step : Step) (x : Middleware) : Nat :=
  sInf {k | ∃ y, ReflTransGen (Constrains r.entries step) x y ∧ (r.baseOrder step).idxOf y = k}

/-- The entry is left, and all that have to come before it are not. -/
structure IsReadyEntry (r : Registry) (step : Step) (taken : List Middleware) (x : Middleware) :
    Prop where
  mem : x ∈ r.baseOrder step
  left : x ∉ taken
  released : ∀ y, Constrains r.entries step y x → y ∈ taken

/-- Of the entries that are ready the entry has the least key, and of equal ones the least place. -/
structure IsNextEntry (r : Registry) (step : Step) (taken : List Middleware) (x : Middleware) :
    Prop where
  ready : r.IsReadyEntry step taken x
  least : ∀ y, r.IsReadyEntry step taken y → r.key step x < r.key step y ∨
    (r.key step x = r.key step y ∧ (r.baseOrder step).idxOf x ≤ (r.baseOrder step).idxOf y)

/-- All entries of the phase, each the next one after those before it. -/
structure IsGreedyOrder (r : Registry) (step : Step) (l : List Middleware) : Prop where
  perm : l.Perm (r.baseOrder step)
  next : ∀ before x after, l = before ++ x :: after → r.IsNextEntry step before x

variable {r : Registry} {step : Step}

/-! ## At most one order -/

theorem IsNextEntry.unique {taken : List Middleware} {x y : Middleware}
    (hx : r.IsNextEntry step taken x) (hy : r.IsNextEntry step taken y) : x = y := by
  have hidx : (r.baseOrder step).idxOf x = (r.baseOrder step).idxOf y := by
    have hxy := hx.least y hy.ready
    have hyx := hy.least x hx.ready
    omega
  exact (List.idxOf_inj hx.ready.mem).1 hidx

/-- At each place only one entry can come next, so that there is one such order. -/
theorem IsGreedyOrder.unique {l l' : List Middleware} (h : r.IsGreedyOrder step l)
    (h' : r.IsGreedyOrder step l') : l = l' := by
  have key : ∀ rest rest' before, l = before ++ rest → l' = before ++ rest' →
      rest.length = rest'.length → rest = rest' := by
    intro rest
    induction rest with
    | nil =>
      intro rest' before _ _ hlength
      exact (List.length_eq_zero_iff.1 hlength.symm).symm
    | cons x rest ih =>
      intro rest' before heq heq' hlength
      obtain ⟨y, rest', rfl⟩ := List.exists_cons_of_length_pos (l := rest') (by simp at hlength; omega)
      obtain rfl := (h.next before x rest heq).unique (h'.next before y rest' heq')
      rw [ih rest' (before ++ [x]) (by simp [heq]) (by simp [heq']) (by simpa using hlength)]
  exact key l l' [] rfl rfl (h.perm.length_eq.trans h'.perm.length_eq.symm)

/-- What has to come before an entry stands before it. -/
theorem IsGreedyOrder.predecessor {l : List Middleware} {x y : Middleware}
    (h : r.IsGreedyOrder step l) (hxy : Constrains r.entries step x y) :
    x ∈ l ∧ l.idxOf x < l.idxOf y := by
  have hy : y ∈ l := h.perm.mem_iff.2 (constrains_iff_baseOrder.1 hxy).2.1
  obtain ⟨before, after, rfl⟩ := List.append_of_mem hy
  have hready := (h.next before y after rfl).ready
  have hx : x ∈ before := hready.released x hxy
  exact ⟨List.mem_append_left _ hx, idxOf_lt_idxOf hx hready.left⟩

/-! ## From numbers to entries -/

theorem Coherent.nodup_entries (h : r.Coherent) : r.entries.Nodup := h.names.of_map _

theorem Coherent.nodup_baseOrder (h : r.Coherent) (step : Step) : (r.baseOrder step).Nodup :=
  (baseOrder_perm r step).nodup_iff.2 (h.nodup_entries.filter _)

/-- Walks between entries are walks between their numbers. -/
theorem reaches_iff {i : Fin (r.baseOrder step).length} {y : Middleware} :
    ReflTransGen (Constrains r.entries step) ((r.baseOrder step).get i) y ↔
      ∃ j : Fin (r.baseOrder step).length,
        ReflTransGen (constraints (r.baseOrder step)).Edge i j ∧ (r.baseOrder step).get j = y := by
  constructor
  · intro hw
    induction hw with
    | refl => exact ⟨i, .refl, rfl⟩
    | @tail y z _ he ih =>
      obtain ⟨j, hij, rfl⟩ := ih
      obtain ⟨k, rfl⟩ := List.mem_iff_get.1 (constrains_iff_baseOrder.1 he).2.1
      exact ⟨k, hij.tail (constrains_get.1 he), rfl⟩
  · rintro ⟨j, hw, rfl⟩
    exact hw.lift (r.baseOrder step).get fun _ _ he => constrains_get.2 he

theorem idxOf_get_baseOrder (h : r.Coherent) (i : Fin (r.baseOrder step).length) :
    (r.baseOrder step).idxOf ((r.baseOrder step).get i) = i.val :=
  (h.nodup_baseOrder step).idxOf_getElem i.val i.isLt

/-- The least number that a number leads to is the key of its entry. -/
theorem key_get (h : r.Coherent) {i : Fin (r.baseOrder step).length} {k : Nat}
    (hk : IsLeast ((constraints (r.baseOrder step)).reachedFrom i) k) :
    r.key step ((r.baseOrder step).get i) = k := by
  have hset : {k | ∃ y, ReflTransGen (Constrains r.entries step) ((r.baseOrder step).get i) y ∧
      (r.baseOrder step).idxOf y = k} = (constraints (r.baseOrder step)).reachedFrom i := by
    ext k
    constructor
    · rintro ⟨y, hw, rfl⟩
      obtain ⟨j, hij, rfl⟩ := reaches_iff.1 hw
      exact ⟨j, hij, (idxOf_get_baseOrder h j).symm⟩
    · rintro ⟨j, hij, rfl⟩
      exact ⟨_, reaches_iff.2 ⟨j, hij, rfl⟩, idxOf_get_baseOrder h j⟩
  rw [key, hset]
  exact hk.csInf_eq

/-- Entries are ready exactly if their numbers are, in the graph of the phase. -/
theorem isReadyEntry_get (h : r.Coherent) {taken : List (Fin (r.baseOrder step).length)}
    {i : Fin (r.baseOrder step).length} :
    r.IsReadyEntry step (taken.map (r.baseOrder step).get) ((r.baseOrder step).get i) ↔
      (constraints (r.baseOrder step)).IsReady taken i := by
  have hinjective : ∀ j k : Fin (r.baseOrder step).length,
      (r.baseOrder step).get j = (r.baseOrder step).get k → j = k := by
    intro j k hjk
    exact Fin.ext ((h.nodup_baseOrder step).getElem_inj_iff.1 hjk)
  have hmem : ∀ j, (r.baseOrder step).get j ∈ taken.map (r.baseOrder step).get ↔ j ∈ taken := by
    intro j
    constructor
    · intro hj
      obtain ⟨k, hk, hkj⟩ := List.mem_map.1 hj
      exact hinjective k j hkj ▸ hk
    · exact fun hj => List.mem_map.2 ⟨j, hj, rfl⟩
  constructor
  · rintro ⟨-, hleft, hreleased⟩
    exact ⟨fun hi => hleft ((hmem i).2 hi),
      fun j he => (hmem j).1 (hreleased _ (constrains_get.2 he))⟩
  · rintro ⟨hleft, hreleased⟩
    refine ⟨List.getElem_mem _, fun hi => hleft ((hmem i).1 hi), fun y he => ?_⟩
    obtain ⟨j, rfl⟩ := List.mem_iff_get.1 (constrains_iff_baseOrder.1 he).1
    exact (hmem j).2 (hreleased j (constrains_get.1 he))

/-- A greedy order of the numbers is one of the entries. -/
theorem isGreedyOrder_map (h : r.Coherent) {order : List (Fin (r.baseOrder step).length)}
    {key : Fin (r.baseOrder step).length → Nat}
    (hkey : ∀ i, IsLeast ((constraints (r.baseOrder step)).reachedFrom i) (key i))
    (hperm : order.Perm (List.finRange _))
    (hgreedy : (constraints (r.baseOrder step)).IsGreedy key order) :
    r.IsGreedyOrder step (order.map (r.baseOrder step).get) := by
  constructor
  · have hall : (List.finRange (r.baseOrder step).length).map (r.baseOrder step).get =
        r.baseOrder step := by
      apply List.ext_getElem <;> simp
    exact (hperm.map _).trans (.of_eq hall)
  · intro before x after heq
    obtain ⟨numbers, rest, rfl, rfl, hrest⟩ := List.map_eq_append_iff.1 heq
    obtain ⟨i, rest, rfl, rfl, -⟩ := List.map_eq_cons_iff.1 hrest
    have hnext := hgreedy numbers i rest rfl
    refine ⟨(isReadyEntry_get h).2 hnext.ready, fun y hy => ?_⟩
    obtain ⟨j, rfl⟩ := List.mem_iff_get.1 hy.mem
    rw [key_get h (hkey i), key_get h (hkey j), idxOf_get_baseOrder h, idxOf_get_baseOrder h]
    exact hnext.least j ((isReadyEntry_get h).1 hy)

/-- Every phase of a coherent registry is arranged by the greedy rule. -/
theorem Coherent.arrange (h : r.Coherent) (step : Step) :
    ∃ l, Registry.arrange (r.baseOrder step) = .ok l ∧ r.IsGreedyOrder step l := by
  obtain ⟨order, key, harrange, hkey, htopological, hgreedy⟩ :=
    arrange_of_acyclic (acyclic_constraints.2 (h.acyclic step))
  exact ⟨_, harrange, isGreedyOrder_map h hkey htopological.perm hgreedy⟩

/-! ## Without constraints -/

/-- An entry that leads nowhere counts by its own place. -/
theorem key_of_free (hfree : ∀ x y, ¬ Constrains r.entries step x y) (x : Middleware) :
    r.key step x = (r.baseOrder step).idxOf x := by
  have hset : {k | ∃ y, ReflTransGen (Constrains r.entries step) x y ∧
      (r.baseOrder step).idxOf y = k} = {(r.baseOrder step).idxOf x} := by
    ext k
    constructor
    · rintro ⟨y, hw, rfl⟩
      rcases ReflTransGen.cases_head hw with rfl | ⟨z, he, -⟩
      · rfl
      · exact absurd he (hfree x z)
    · rintro rfl
      exact ⟨x, .refl, rfl⟩
  rw [key, hset, csInf_singleton]

/-- Without constraints the base order is the greedy one. -/
theorem Coherent.isGreedyOrder_baseOrder (h : r.Coherent)
    (hfree : ∀ x y, ¬ Constrains r.entries step x y) :
    r.IsGreedyOrder step (r.baseOrder step) := by
  refine ⟨.refl _, fun before x after hsplit => ?_⟩
  have hnodup : (before ++ x :: after).Nodup := hsplit ▸ h.nodup_baseOrder step
  have hx : x ∉ before := fun hmem => List.disjoint_of_nodup_append hnodup hmem List.mem_cons_self
  refine ⟨⟨by simp [hsplit], hx, fun y he => absurd he (hfree y x)⟩, fun y hy => ?_⟩
  have hidx : (r.baseOrder step).idxOf x ≤ (r.baseOrder step).idxOf y := by
    rw [hsplit, List.idxOf_append_of_notMem hx, List.idxOf_append_of_notMem hy.left,
      List.idxOf_cons_self]
    omega
  rw [key_of_free hfree, key_of_free hfree]
  omega

end Registry

end ClientGen
