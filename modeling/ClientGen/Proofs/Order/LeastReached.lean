import ClientGen.Proofs.Order.Greedy
import Mathlib.Order.Bounds.Basic

/-!
# The least number that a vertex leads to

The pass over a topological order from its end sees each vertex after all that the vertex leads to.
Hence the number it leaves at a vertex is the least among the vertex itself and all that walks from
it reach.
-/

namespace ClientGen

open Relation

namespace Graph

variable {n : Nat} {g : Graph n}

/-- The numbers of the vertices that walks from a vertex reach, its own among them. -/
def reachedFrom (g : Graph n) (v : Fin n) : Set Nat :=
  {k | ∃ w : Fin n, ReflTransGen g.Edge v w ∧ w.val = k}

/-- Behind a vertex of a topological order stand all that its edges lead to. -/
theorem IsTopological.mem_after {order before after : List (Fin n)} {u v : Fin n}
    (h : g.IsTopological order) (heq : order = before ++ u :: after) (he : g.Edge u v) :
    v ∈ after := by
  have hnodup := h.nodup
  have hforward := h.forward he
  have hv := h.mem v
  subst heq
  have hu : u ∉ before := fun hb =>
    List.disjoint_of_nodup_append hnodup hb List.mem_cons_self
  have hindex : (before ++ u :: after).idxOf u = before.length := by
    rw [List.idxOf_append_of_notMem hu, List.idxOf_cons_self, Nat.add_zero]
  rcases List.mem_append.1 hv with hb | hv
  · have hlt := List.idxOf_lt_length_of_mem hb
    rw [List.idxOf_append_of_mem hb] at hforward
    omega
  · rcases List.mem_cons.1 hv with rfl | hv
    · exact absurd hforward (Nat.lt_irrefl _)
    · exact hv

/-- Folding with the minimum finds the least of the first value and those of the elements. -/
theorem isLeast_foldl_min {α : Type} (f : α → Nat) (l : List α) (first : Nat) :
    IsLeast {k | k = first ∨ ∃ a ∈ l, f a = k} (l.foldl (fun k a => min k (f a)) first) := by
  induction l generalizing first with
  | nil => simp [IsLeast, lowerBounds]
  | cons a l ih =>
    obtain ⟨hmem, hlow⟩ := ih (min first (f a))
    rw [List.foldl_cons]
    constructor
    · rcases hmem with hmin | ⟨b, hb, hk⟩
      · rcases min_choice first (f a) with hfirst | ha
        · exact .inl (hmin.trans hfirst)
        · exact .inr ⟨a, List.mem_cons_self, (hmin.trans ha).symm⟩
      · exact .inr ⟨b, List.mem_cons_of_mem _ hb, hk⟩
    · rintro k (rfl | ⟨b, hb, rfl⟩)
      · exact (hlow (.inl rfl)).trans (min_le_left _ _)
      · rcases List.mem_cons.1 hb with rfl | hb
        · exact (hlow (.inl rfl)).trans (min_le_right _ _)
        · exact hlow (.inr ⟨b, hb, rfl⟩)

/-- What a vertex reaches is itself and what its successors reach. -/
theorem isLeast_reachedFrom {u : Fin n} {least : Fin n → Nat} {k : Nat}
    (hleast : ∀ v, g.Edge u v → IsLeast (g.reachedFrom v) (least v))
    (hk : IsLeast {k | k = u.val ∨ ∃ v ∈ g.successors u, least v = k} k) :
    IsLeast (g.reachedFrom u) k := by
  obtain ⟨hmem, hlow⟩ := hk
  constructor
  · rcases hmem with rfl | ⟨v, hv, rfl⟩
    · exact ⟨u, .refl, rfl⟩
    · obtain ⟨w, hw, hwk⟩ := (hleast v (mem_successors.1 hv)).1
      exact ⟨w, .head (mem_successors.1 hv) hw, hwk⟩
  · rintro j ⟨w, hw, rfl⟩
    rcases hw.cases_head with rfl | ⟨v, he, hw⟩
    · exact hlow (.inl rfl)
    · have hv : k ≤ least v := hlow (.inr ⟨v, mem_successors.2 he, rfl⟩)
      exact hv.trans ((hleast v he).2 ⟨w, hw, rfl⟩)

/-- A vertex of the part that the pass has seen has its least number, any other its own. -/
theorem leastReached_suffix {order : List (Fin n)} (h : g.IsTopological order)
    (before rest : List (Fin n)) (heq : order = before ++ rest) (v : Fin n) :
    (v ∈ rest → IsLeast (g.reachedFrom v) ((g.leastReached rest).get v)) ∧
    (v ∉ rest → (g.leastReached rest).get v = v.val) := by
  induction rest generalizing before v with
  | nil => exact ⟨fun hv => absurd hv List.not_mem_nil, fun _ => Vector.getElem_ofFn v.isLt⟩
  | cons u rest ih =>
    have ih := ih (before ++ [u]) (by simp [heq])
    have hu : u ∉ rest := by
      have hnodup := h.nodup
      rw [heq] at hnodup
      exact (List.nodup_cons.1 (List.nodup_append.1 hnodup).2.1).1
    have hstep : g.leastReached (u :: rest) = (g.leastReached rest).set u.val
        ((g.successors u).foldl (fun k v => min k ((g.leastReached rest).get v))
          ((g.leastReached rest).get u)) u.isLt := rfl
    rw [hstep]
    by_cases huv : u = v
    · subst huv
      refine ⟨fun _ => ?_, fun hnot => absurd List.mem_cons_self hnot⟩
      rw [get_set_self, (ih u).2 hu]
      refine isLeast_reachedFrom (fun v he => (ih v).1 (h.mem_after heq he)) ?_
      exact isLeast_foldl_min _ _ _
    · rw [get_set_of_ne _ huv]
      simpa [Ne.symm huv] using ih v

/-- The pass over a topological order finds for every vertex the least number it leads to. -/
theorem isLeast_leastReached {order : List (Fin n)} (h : g.IsTopological order) (v : Fin n) :
    IsLeast (g.reachedFrom v) ((g.leastReached order).get v) :=
  (leastReached_suffix h [] order rfl v).1 (h.mem v)

end Graph

end ClientGen
