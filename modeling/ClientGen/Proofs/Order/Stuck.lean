import ClientGen.Proofs.Order.Greedy

/-!
# What the loop cannot take

The loop that orders the vertices of a graph stops at those from which a walk backwards need not
end: the vertices of closed walks, and all that these lead to. So the vertices it is left with say
where the graph has closed walks, but not every one of them lies on such a walk.
-/

namespace ClientGen

open Relation

/-- A closed walk passes the element, or leads to it. -/
def IsBehindCycle {α : Type} (r : α → α → Prop) (a : α) : Prop :=
  ∃ b, TransGen r b b ∧ ReflTransGen r b a

namespace IsBehindCycle

variable {α : Type} {r : α → α → Prop} {a b : α}

theorem of_cycle (h : TransGen r a a) : IsBehindCycle r a := ⟨a, h, .refl⟩

theorem step (h : IsBehindCycle r a) (he : r a b) : IsBehindCycle r b := by
  obtain ⟨c, hc, hca⟩ := h
  exact ⟨c, hc, hca.tail he⟩

/-- The walk that leads to such an element goes on backwards. -/
theorem exists_predecessor (h : IsBehindCycle r a) : ∃ b, r b a ∧ IsBehindCycle r b := by
  obtain ⟨c, hc, hca⟩ := h
  rcases ReflTransGen.cases_tail hca with rfl | ⟨b, hcb, hba⟩
  · obtain ⟨b, hab, hba⟩ := TransGen.tail'_iff.1 hc
    exact ⟨b, hba, ⟨a, hc, hab⟩⟩
  · exact ⟨b, hba, ⟨c, hc, hcb⟩⟩

/-- Elements each of which another one of them leads to are behind closed walks. -/
theorem of_forall_exists [Finite α] {l : List α} (h : ∀ a ∈ l, ∃ b ∈ l, r b a) (ha : a ∈ l) :
    IsBehindCycle r a := by
  by_contra hfree
  -- Without the steps to elements behind closed walks no walk is closed.
  let r' (x y : α) : Prop := r x y ∧ ¬ IsBehindCycle r y
  have hacyclic : Acyclic r' := by
    intro x hw
    obtain ⟨y, -, -, hx⟩ := TransGen.tail'_iff.1 hw
    exact hx (of_cycle (hw.lift id fun _ _ he => he.1))
  obtain ⟨m, ⟨hm, hmfree⟩, hmin⟩ :=
    hacyclic.wellFounded.has_min {x | x ∈ l ∧ ¬ IsBehindCycle r x} ⟨a, ha, hfree⟩
  obtain ⟨b, hb, he⟩ := h m hm
  exact hmin b ⟨hb, fun hbehind => hmfree (hbehind.step he)⟩ (.single ⟨he, hmfree⟩)

end IsBehindCycle

namespace Graph

variable {n : Nat} {g : Graph n} {P : Type} [LinearOrder P] {priority : Fin n → P}

/-- A greedy order takes no vertex behind a closed walk. -/
theorem IsGreedy.not_isBehindCycle {order : List (Fin n)} {v : Fin n}
    (h : g.IsGreedy priority order) (hv : v ∈ order) : ¬ IsBehindCycle g.Edge v := by
  induction hk : order.idxOf v using Nat.strong_induction_on generalizing v with
  | _ k ih =>
    intro hbehind
    obtain ⟨u, he, hu⟩ := hbehind.exists_predecessor
    obtain ⟨hmem, hlt⟩ := h.predecessor hv he
    exact ih _ (hk ▸ hlt) hmem rfl hu

theorem IsStuck.mem_iff {stuck : List (Fin n)} (h : g.IsStuck priority stuck) (v : Fin n) :
    v ∈ stuck ↔ IsBehindCycle g.Edge v := by
  constructor
  · exact IsBehindCycle.of_forall_exists h.held
  · intro hbehind
    obtain ⟨taken, hperm, hgreedy⟩ := h.others
    have hall : v ∈ taken ++ stuck := hperm.mem_iff.2 (List.mem_finRange v)
    exact (List.mem_append.1 hall).resolve_left fun ht => hgreedy.not_isBehindCycle ht hbehind

end Graph

end ClientGen
