import ClientGen.Order.Topological
import Mathlib.Data.Fintype.EquivFin
import Mathlib.Data.List.Chain
import Mathlib.Logic.Relation
import Mathlib.Order.WellFounded

/-!
# Acyclic relations and orders along the edges of a graph

A relation on a finite type without a closed walk has, among any elements, one that none of these
leads to. A closed walk can be written as a list, and a walk that comes back to one of its elements
has such a list at its end. A list of all vertices of a graph in which every edge leads forward
shows that the graph has no closed walk.
-/

namespace ClientGen

open Relation

/-- No walk leads from an element back to it. -/
def Acyclic {α : Type} (r : α → α → Prop) : Prop := ∀ a, ¬ TransGen r a a

namespace Acyclic

variable {α β : Type} {r : α → α → Prop}

/-- Steps that make some number grow cannot close a walk. -/
theorem of_rank (rank : α → Nat) (h : ∀ a b, r a b → rank a < rank b) : Acyclic r := by
  have grow : ∀ a b, TransGen r a b → rank a < rank b := by
    intro a b hw
    induction hw with
    | single he => exact h _ _ he
    | tail _ he ih => exact ih.trans (h _ _ he)
  intro a hw
  exact Nat.lt_irrefl _ (grow a a hw)

/-- A relation that maps into an acyclic one is acyclic. -/
theorem of_map {s : β → β → Prop} (hs : Acyclic s) (f : α → β) (h : ∀ a b, r a b → s (f a) (f b)) :
    Acyclic r :=
  fun a hw => hs (f a) (hw.lift f h)

/-- One more element from which no step leads on closes no walk. -/
theorem of_sink {s : α → α → Prop} (hs : Acyclic s) {d : α} (hsink : ∀ b, ¬ r d b)
    (h : ∀ a b, b ≠ d → r a b → s a b) : Acyclic r := by
  have avoid : ∀ a b, TransGen r a b → b ≠ d → TransGen s a b := by
    intro a b hw
    induction hw with
    | single he => exact fun hb => .single (h _ _ hb he)
    | @tail b c _ he ih =>
      intro hc
      have hb : b ≠ d := fun heq => hsink c (heq ▸ he)
      exact (ih hb).tail (h _ _ hc he)
  intro a hw
  obtain ⟨b, he, -⟩ := TransGen.head'_iff.1 hw
  exact hs a (avoid a a hw fun heq => hsink b (heq ▸ he))

/-- A walk that needs a step from or to one element passes this element. -/
theorem transGen_avoids_or_passes {s : α → α → Prop} {d : α}
    (h : ∀ a b, a ≠ d → b ≠ d → r a b → s a b) {a b : α} (hw : TransGen r a b) :
    TransGen s a b ∨ (ReflTransGen r a d ∧ ReflTransGen r d b) := by
  induction hw with
  | @single b he =>
    by_cases ha : a = d
    · subst ha
      exact .inr ⟨.refl, .single he⟩
    by_cases hb : b = d
    · subst hb
      exact .inr ⟨.single he, .refl⟩
    exact .inl (.single (h _ _ ha hb he))
  | @tail b c hab he ih =>
    rcases ih with hold | ⟨had, hdb⟩
    · by_cases hb : b = d
      · subst hb
        exact .inr ⟨hab.to_reflTransGen, .single he⟩
      by_cases hc : c = d
      · subst hc
        exact .inr ⟨(hab.tail he).to_reflTransGen, .refl⟩
      exact .inl (hold.tail (h _ _ hb hc he))
    · exact .inr ⟨had, hdb.tail he⟩

/-- Where only steps from or to one element close walks, each closed walk passes it. -/
theorem passes {s : α → α → Prop} (hs : Acyclic s) {d : α}
    (h : ∀ a b, a ≠ d → b ≠ d → r a b → s a b) {a : α} (hw : TransGen r a a) :
    ReflTransGen r a d ∧ ReflTransGen r d a :=
  (transGen_avoids_or_passes h hw).resolve_left (hs a)

theorem wellFounded [Finite α] (h : Acyclic r) : WellFounded (TransGen r) := by
  have htrans : IsTrans α (TransGen r) := ⟨fun _ _ _ => TransGen.trans⟩
  have hirrefl : Std.Irrefl (TransGen r) := ⟨h⟩
  exact Finite.wellFounded_of_trans_of_irrefl _

/-- Among some elements there is one that none of these leads to. -/
theorem exists_source [Finite α] (h : Acyclic r) {l : List α} (hl : l ≠ []) :
    ∃ a ∈ l, ∀ b ∈ l, ¬ r b a := by
  obtain ⟨b, hb⟩ := List.exists_mem_of_ne_nil l hl
  obtain ⟨a, ha, hmin⟩ := h.wellFounded.has_min {x | x ∈ l} ⟨b, hb⟩
  exact ⟨a, ha, fun b hb he => hmin b hb (TransGen.single he)⟩

end Acyclic

/-! ## Closed walks -/

/-- A list that goes along a relation and ends where it starts. -/
structure IsClosedWalk {α : Type} (r : α → α → Prop) (l : List α) : Prop where
  chain : l.IsChain r
  closed : l.head? = l.getLast?
  long : 2 ≤ l.length

namespace IsClosedWalk

variable {α : Type} {r : α → α → Prop} {l : List α}

theorem exists_eq_cons_cons (h : IsClosedWalk r l) : ∃ a b rest, l = a :: b :: rest := by
  match l, h.long with
  | a :: b :: rest, _ => exact ⟨a, b, rest, rfl⟩

/-- Every element of a closed walk leads on. -/
theorem exists_rel (h : IsClosedWalk r l) {a : α} (ha : a ∈ l) : ∃ b, r a b := by
  obtain ⟨first, second, rest, hl⟩ := h.exists_eq_cons_cons
  obtain ⟨front, back, hsplit⟩ := List.append_of_mem ha
  have hchain := h.chain
  cases back with
  | nil =>
    have hclosed := h.closed
    rw [hsplit, List.getLast?_concat, ← hsplit, hl, List.head?_cons] at hclosed
    obtain rfl := Option.some.inj hclosed
    rw [hl] at hchain
    exact ⟨second, (List.isChain_cons_cons.1 hchain).1⟩
  | cons b back =>
    rw [hsplit] at hchain
    exact ⟨b, (List.isChain_append_cons_cons.1 hchain).2.1⟩

theorem exists_transGen (h : IsClosedWalk r l) : ∃ a ∈ l, TransGen r a a := by
  obtain ⟨a, b, rest, rfl⟩ := h.exists_eq_cons_cons
  have hlast : (b :: rest).getLast (List.cons_ne_nil b rest) = a := by
    have hclosed := h.closed
    rw [List.getLast?_cons_cons, List.getLast?_eq_some_getLast (List.cons_ne_nil b rest)] at hclosed
    exact (Option.some.inj hclosed).symm
  obtain ⟨hab, hrest⟩ := List.isChain_cons_cons.1 h.chain
  exact ⟨a, List.mem_cons_self,
    .head' hab (List.relationReflTransGen_of_exists_isChain_cons rest hrest hlast)⟩

theorem imp_of_mem {s : α → α → Prop} (h : IsClosedWalk r l)
    (hs : ∀ a b, a ∈ l → b ∈ l → r a b → s a b) : IsClosedWalk s l :=
  ⟨h.chain.imp_of_mem_imp hs, h.closed, h.long⟩

/-- A walk that comes back to one of its elements is closed from there on. -/
theorem of_revisit [DecidableEq α] {path : List α} {a : α} (hchain : (path ++ [a]).IsChain r)
    (ha : a ∈ path) : IsClosedWalk r (path.dropWhile (· ≠ a) ++ [a]) := by
  obtain ⟨front, back, rfl, hfront⟩ := List.eq_append_cons_of_mem ha
  have hdrop : (front ++ a :: back).dropWhile (· ≠ a) = a :: back := by
    rw [List.dropWhile_append_of_pos, List.dropWhile_cons_of_neg (by simp)]
    intro x hx
    simpa using ne_of_mem_of_not_mem hx hfront
  rw [hdrop]
  refine ⟨hchain.suffix ⟨front, by simp⟩, ?_, ?_⟩
  · rw [List.getLast?_concat, List.cons_append, List.head?_cons]
  · simp

end IsClosedWalk

theorem idxOf_lt_idxOf {α : Type} [DecidableEq α] {before after : List α} {a b : α}
    (ha : a ∈ before) (hb : b ∉ before) :
    (before ++ b :: after).idxOf a < (before ++ b :: after).idxOf b := by
  have hlt := List.idxOf_lt_length_of_mem ha
  rw [List.idxOf_append_of_mem ha, List.idxOf_append_of_notMem hb]
  omega

/-- What stands before another element in a part of a list does so in the whole list. -/
theorem idxOf_lt_idxOf_of_sublist {α : Type} [DecidableEq α] {s l : List α} {a b : α}
    (hs : s.Sublist l) (hl : l.Nodup) (hb : b ∈ s) (h : s.idxOf a < s.idxOf b) :
    l.idxOf a < l.idxOf b := by
  have ha : a ∈ s := List.idxOf_lt_length_iff.1 (h.trans (List.idxOf_lt_length_of_mem hb))
  induction hs with
  | slnil => cases ha
  | @cons s l c hs ih =>
    obtain ⟨hc, hl⟩ := List.nodup_cons.1 hl
    have hca : c ≠ a := fun heq => hc (heq ▸ hs.subset ha)
    have hcb : c ≠ b := fun heq => hc (heq ▸ hs.subset hb)
    have hrest := ih hl hb h ha
    rw [List.idxOf_cons_ne _ hca, List.idxOf_cons_ne _ hcb]
    omega
  | @cons_cons s l c hs ih =>
    obtain ⟨-, hl⟩ := List.nodup_cons.1 hl
    have hcb : c ≠ b := by
      rintro rfl
      rw [List.idxOf_cons_self] at h
      omega
    rw [List.idxOf_cons_ne _ hcb] at h ⊢
    by_cases hca : c = a
    · subst hca
      rw [List.idxOf_cons_self]
      omega
    · rw [List.idxOf_cons_ne _ hca] at h ⊢
      have hrest := ih hl ((List.mem_cons.1 hb).resolve_left (Ne.symm hcb)) (by omega)
        ((List.mem_cons.1 ha).resolve_left (Ne.symm hca))
      omega

theorem idxOf_lt_idxOf_iff_of_sublist {α : Type} [DecidableEq α] {s l : List α} {a b : α}
    (hs : s.Sublist l) (hl : l.Nodup) (ha : a ∈ s) (hb : b ∈ s) :
    s.idxOf a < s.idxOf b ↔ l.idxOf a < l.idxOf b := by
  refine ⟨idxOf_lt_idxOf_of_sublist hs hl hb, fun h => ?_⟩
  rcases Nat.lt_trichotomy (s.idxOf a) (s.idxOf b) with hlt | heq | hgt
  · exact hlt
  · obtain rfl := (List.idxOf_inj ha).1 heq
    omega
  · have hback := idxOf_lt_idxOf_of_sublist hs hl ha hgt
    omega

namespace Graph

variable {n : Nat} {g : Graph n}

/-- An edge leads from one vertex to the other. -/
def Edge (g : Graph n) (u v : Fin n) : Prop := g u v = true

@[simp] theorem mem_successors {u v : Fin n} : v ∈ g.successors u ↔ g.Edge u v := by
  simp [successors, Edge]

@[simp] theorem mem_predecessors {u v : Fin n} : u ∈ g.predecessors v ↔ g.Edge u v := by
  simp [predecessors, Edge]

theorem nodup_successors (g : Graph n) (u : Fin n) : (g.successors u).Nodup :=
  (List.nodup_finRange n).filter _

theorem nodup_predecessors (g : Graph n) (v : Fin n) : (g.predecessors v).Nodup :=
  (List.nodup_finRange n).filter _

/-! ## Orders along the edges -/

/-- Every vertex stands in the list once, and every edge leads forward in it. -/
structure IsTopological (g : Graph n) (order : List (Fin n)) : Prop where
  perm : order.Perm (List.finRange n)
  forward : ∀ {u v}, g.Edge u v → order.idxOf u < order.idxOf v

namespace IsTopological

variable {order : List (Fin n)}

theorem mem (h : g.IsTopological order) (v : Fin n) : v ∈ order :=
  h.perm.mem_iff.2 (List.mem_finRange v)

theorem nodup (h : g.IsTopological order) : order.Nodup :=
  h.perm.nodup_iff.2 (List.nodup_finRange n)

theorem acyclic (h : g.IsTopological order) : Acyclic g.Edge :=
  Acyclic.of_rank order.idxOf fun _ _ he => h.forward he

end IsTopological

end Graph

end ClientGen
