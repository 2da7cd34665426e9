import ClientGen.Middleware.Registry
import ClientGen.Proofs.Order.LeastReached

/-!
# The constraints of a phase

Entries constrain each other by name, and the loop that arranges them works on numbers in the base
order. Both give one graph: the numbers of a phase are ordered exactly where no walk along the
constraints of its entries comes back.
-/

namespace ClientGen

namespace Registry

open Relation

/-- The constraints between the entries of a phase: where an entry says that it comes before or
after another one of the phase. A peer that the phase does not have constrains nothing. -/
inductive Constrains (entries : List Middleware) (step : Step) : Middleware → Middleware → Prop
  | before {x p : Middleware} (hx : x ∈ entries) (hp : p ∈ entries) (hxs : x.step = step)
      (hps : p.step = step) (h : x.position = .before p.name) : Constrains entries step x p
  | after {x p : Middleware} (hx : x ∈ entries) (hp : p ∈ entries) (hxs : x.step = step)
      (hps : p.step = step) (h : x.position = .after p.name) : Constrains entries step p x

variable {r : Registry} {step : Step} {entries : List Middleware} {x y : Middleware}

theorem constrains_iff : Constrains entries step x y ↔
    (x ∈ entries ∧ x.step = step) ∧ (y ∈ entries ∧ y.step = step) ∧ precedes x y = true := by
  constructor
  · rintro (⟨hx, hy, hxs, hys, h⟩ | ⟨hy, hx, hys, hxs, h⟩)
    · exact ⟨⟨hx, hxs⟩, ⟨hy, hys⟩, by simp [precedes, h]⟩
    · exact ⟨⟨hx, hxs⟩, ⟨hy, hys⟩, by simp [precedes, h]⟩
  · rintro ⟨⟨hx, hxs⟩, ⟨hy, hys⟩, h⟩
    simp only [precedes, Bool.or_eq_true, decide_eq_true_eq] at h
    rcases h with h | h
    · exact .before hx hy hxs hys h
    · exact .after hy hx hys hxs h

/-- What constrains entries besides a new one, constrains them without it. -/
theorem Constrains.of_concat {d : Middleware} (h : Constrains (entries ++ [d]) step x y)
    (hx : x ≠ d) (hy : y ≠ d) : Constrains entries step x y := by
  have old : ∀ z : Middleware, z ≠ d → z ∈ entries ++ [d] → z ∈ entries := by
    intro z hz hmem
    rcases List.mem_append.1 hmem with hmem | hmem
    · exact hmem
    · exact absurd (List.mem_singleton.1 hmem) hz
  rw [constrains_iff] at h ⊢
  obtain ⟨⟨hmx, hxs⟩, ⟨hmy, hys⟩, hprecedes⟩ := h
  exact ⟨⟨old x hx hmx, hxs⟩, ⟨old y hy hmy, hys⟩, hprecedes⟩

/-! ## The base order -/

@[simp] theorem mem_baseOrder : x ∈ r.baseOrder step ↔ x ∈ r.entries ∧ x.step = step := by
  simp only [baseOrder, List.mem_append, List.mem_filter, decide_eq_true_eq]
  by_cases h : x.position = .head <;> simp [h]

theorem baseOrder_perm (r : Registry) (step : Step) :
    (r.baseOrder step).Perm (r.entries.filter (·.step = step)) := by
  have h := List.filter_append_perm (fun x : Middleware => decide (x.position = .head))
    (r.entries.filter (·.step = step))
  simpa [baseOrder] using h

theorem constrains_iff_baseOrder : Constrains r.entries step x y ↔
    x ∈ r.baseOrder step ∧ y ∈ r.baseOrder step ∧ precedes x y = true := by
  rw [constrains_iff, mem_baseOrder, mem_baseOrder]

/-! ## The graph on numbers -/

theorem edge_constraints {base : List Middleware} {i j : Fin base.length} :
    (constraints base).Edge i j ↔ precedes (base.get i) (base.get j) = true := Iff.rfl

theorem constrains_get {i j : Fin (r.baseOrder step).length} :
    Constrains r.entries step ((r.baseOrder step).get i) ((r.baseOrder step).get j) ↔
      (constraints (r.baseOrder step)).Edge i j := by
  rw [constrains_iff_baseOrder, edge_constraints]
  simp only [List.get_mem, true_and]

/-- The numbers have no closed walk exactly if the entries have none. -/
theorem acyclic_constraints :
    Acyclic (constraints (r.baseOrder step)).Edge ↔ Acyclic (Constrains r.entries step) := by
  constructor
  · intro h x hw
    -- Every entry on a walk stands in the base order, so its first number there stands for it.
    have hx : x ∈ r.baseOrder step := by
      obtain ⟨y, hxy, -⟩ := TransGen.head'_iff.1 hw
      exact (constrains_iff_baseOrder.1 hxy).1
    let number (y : Middleware) : Fin (r.baseOrder step).length :=
      if hy : y ∈ r.baseOrder step then ⟨(r.baseOrder step).idxOf y, List.idxOf_lt_length_of_mem hy⟩
      else ⟨(r.baseOrder step).idxOf x, List.idxOf_lt_length_of_mem hx⟩
    have hnumber : ∀ y ∈ r.baseOrder step, (r.baseOrder step).get (number y) = y := by
      intro y hy
      simp only [number, dif_pos hy]
      exact List.getElem_idxOf _
    refine h (number x) (hw.lift number fun a b hab => ?_)
    obtain ⟨ha, hb, hprecedes⟩ := constrains_iff_baseOrder.1 hab
    change precedes ((r.baseOrder step).get (number a)) ((r.baseOrder step).get (number b)) = true
    rw [hnumber a ha, hnumber b hb]
    exact hprecedes
  · intro h
    exact h.of_map (r.baseOrder step).get fun i j he => constrains_get.2 he

/-! ## Arranging -/

/-- Acyclic constraints leave an order, which is greedy by the least number that each number leads
to. -/
theorem arrange_of_acyclic {base : List Middleware} (h : Acyclic (constraints base).Edge) :
    ∃ (order : List (Fin base.length)) (key : Fin base.length → Nat),
      arrange base = .ok (order.map base.get) ∧
      (∀ i, IsLeast ((constraints base).reachedFrom i) (key i)) ∧
      (constraints base).IsTopological order ∧ (constraints base).IsGreedy key order := by
  obtain ⟨first, hfirst, htopological, -⟩ := Graph.order_of_acyclic h id
  obtain ⟨order, horder, hsecond, hgreedy⟩ :=
    Graph.order_of_acyclic h fun i => ((constraints base).leastReached first)[i]
  refine ⟨order, _, ?_, Graph.isLeast_leastReached htopological, hsecond, hgreedy⟩
  simp only [arrange, hfirst, horder]
  rfl

theorem arrange_of_not_acyclic {base : List Middleware} (h : ¬ Acyclic (constraints base).Edge) :
    ∃ names, arrange base = .error (.cycle names) := by
  obtain ⟨stuck, hstuck⟩ := Graph.order_of_not_acyclic h id
  exact ⟨namesAt base stuck, by simp only [arrange, hstuck]⟩

end Registry

end ClientGen
