import ClientGen.Graph.Validation
import ClientGen.Proofs.Results
import Mathlib.Logic.Relation

/-!
# What the walk for cycles shows

A shape counts as done once all that its edges lead to is done. Hence no walk along edges leaves the
shapes that are done, and none of them comes back to where it started.
-/

namespace ClientGen

namespace CycleKind

open Relation

variable {k : CycleKind} {m : Model}

/-- An edge that a cycle of the kind can go along. -/
def Edge (k : CycleKind) (m : Model) (a b : ShapeId) : Prop :=
  ∃ s, m.shape? a = some s ∧ k.expands s = true ∧
    ∃ e ∈ k.edges s, k.admits m s e = .ok true ∧ e.target = b

/-- No edge leaves the shapes, and no walk along edges comes back to one of them. -/
structure IsCleared (k : CycleKind) (m : Model) (done : List ShapeId) : Prop where
  closed : ∀ x ∈ done, ∀ y, k.Edge m x y → y ∈ done
  acyclic : ∀ x ∈ done, ¬ TransGen (k.Edge m) x x

theorem isCleared_nil : k.IsCleared m [] := by
  constructor <;> intro x hx <;> cases hx

theorem IsCleared.mem_of_walk {done : List ShapeId} (h : k.IsCleared m done) {x y : ShapeId}
    (hx : x ∈ done) (hw : ReflTransGen (k.Edge m) x y) : y ∈ done := by
  induction hw with
  | refl => exact hx
  | tail _ he ih => exact h.closed _ ih _ he

/-- A shape all whose edges lead to cleared shapes is cleared. -/
theorem IsCleared.cons {done : List ShapeId} {id : ShapeId} (h : k.IsCleared m done)
    (hid : ∀ y, k.Edge m id y → y ∈ done) : k.IsCleared m (id :: done) := by
  constructor
  · intro x hx y he
    rcases List.mem_cons.1 hx with rfl | hx
    · exact List.mem_cons_of_mem _ (hid y he)
    · exact List.mem_cons_of_mem _ (h.closed x hx y he)
  · intro x hx hw
    by_cases hdone : x ∈ done
    · exact h.acyclic x hdone hw
    · obtain rfl : x = id := by
        rcases List.mem_cons.1 hx with hx | hx
        · exact hx
        · exact absurd hx hdone
      -- The walk leaves `x` for a cleared shape, from which nothing leads back to `x`.
      obtain ⟨y, he, hback⟩ := TransGen.head'_iff.1 hw
      exact hdone (h.mem_of_walk (hid y he) hback)

/-! ## One step of a walk -/

section

variable {path done : List ShapeId} {id : ShapeId} {s : Shape} {e : Member} {rest : List Member}

theorem walk_done (h : id ∈ done) : k.walk m path done id = .ok done := by
  rw [walk, if_pos h]

theorem walk_cycle (hdone : id ∉ done) (hpath : id ∈ path) : k.walk m path done id =
    .error (.invalidGraph k.fault (path.dropWhile (· ≠ id) ++ [id])) := by
  rw [walk, if_neg hdone, dif_pos hpath]

theorem walk_undefined (hdone : id ∉ done) (hpath : id ∉ path) (hs : m.shape? id = none) :
    k.walk m path done id = .error (.unresolvedShape id (.stage k.stage)) := by
  rw [walk, if_neg hdone, dif_neg hpath, hs]

/-- A shape that is off every cycle is done at once. -/
theorem walk_leaf (hdone : id ∉ done) (hpath : id ∉ path) (hs : m.shape? id = some s)
    (hexpands : k.expands s = false) : k.walk m path done id = .ok (id :: done) := by
  rw [walk, if_neg hdone, dif_neg hpath, hs]
  dsimp only
  rw [hexpands]
  rfl

/-- Any other shape is done after its edges. -/
theorem walk_expand (hdone : id ∉ done) (hpath : id ∉ path) (hs : m.shape? id = some s)
    (hexpands : k.expands s = true) : k.walk m path done id =
      (k.walkEdges m (path ++ [id]) done s (k.edges s)).map (id :: ·) := by
  rw [walk, if_neg hdone, dif_neg hpath, hs]
  dsimp only
  rw [if_pos hexpands]
  cases k.walkEdges m (path ++ [id]) done s (k.edges s) <;> rfl

@[simp] theorem walkEdges_nil : k.walkEdges m path done s [] = .ok done := by
  rw [walkEdges]

theorem walkEdges_error {err : GenerationError} (h : k.admits m s e = .error err) :
    k.walkEdges m path done s (e :: rest) = .error err := by
  rw [walkEdges, h]

theorem walkEdges_skip (h : k.admits m s e = .ok false) :
    k.walkEdges m path done s (e :: rest) = k.walkEdges m path done s rest := by
  rw [walkEdges, h]

theorem walkEdges_follow (h : k.admits m s e = .ok true) :
    k.walkEdges m path done s (e :: rest) =
      k.walk m path done e.target >>= fun done => k.walkEdges m path done s rest := by
  rw [walkEdges, h]
  dsimp only
  cases k.walk m path done e.target <;> rfl

end

/-! ## What walks clear -/

mutual

/-- A walk that goes well clears the shape from which it starts. -/
theorem walk_ok {path done done' : List ShapeId} {id : ShapeId}
    (h : k.walk m path done id = .ok done') (hdone : k.IsCleared m done) :
    k.IsCleared m done' ∧ (∀ x ∈ done, x ∈ done') ∧ id ∈ done' := by
  by_cases hid : id ∈ done
  · rw [walk_done hid] at h
    obtain rfl := Except.ok.inj h
    exact ⟨hdone, fun _ hx => hx, hid⟩
  by_cases hpath : id ∈ path
  · rw [walk_cycle hid hpath] at h
    cases h
  cases hs : m.shape? id with
  | none =>
    rw [walk_undefined hid hpath hs] at h
    cases h
  | some s =>
    have hedge : ∀ y, k.Edge m id y → k.expands s = true ∧
        ∃ e ∈ k.edges s, k.admits m s e = .ok true ∧ e.target = y := by
      rintro y ⟨t, ht, hexpands, he⟩
      obtain rfl : s = t := Option.some.inj (hs.symm.trans ht)
      exact ⟨hexpands, he⟩
    have hfewer : m.unseen (path ++ [id]) < m.unseen path :=
      Model.unseen_lt hs hpath (by simp) fun _ h => by simp [h]
    cases hexpands : k.expands s with
    | false =>
      rw [walk_leaf hid hpath hs hexpands] at h
      obtain rfl := Except.ok.inj h
      refine ⟨hdone.cons fun y hy => ?_, fun x hx => List.mem_cons_of_mem _ hx,
        List.mem_cons_self⟩
      rw [(hedge y hy).1] at hexpands
      cases hexpands
    | true =>
      rw [walk_expand hid hpath hs hexpands] at h
      obtain ⟨cleared, hedges, rfl⟩ := map_eq_ok.1 h
      obtain ⟨hcleared, hkeep, htargets⟩ := walkEdges_ok hedges hdone
      refine ⟨hcleared.cons fun y hy => ?_, fun x hx => List.mem_cons_of_mem _ (hkeep x hx),
        List.mem_cons_self⟩
      obtain ⟨-, e, he, hadmits, rfl⟩ := hedge y hy
      exact htargets e he hadmits
termination_by (m.unseen path, 0)
decreasing_by
  exact Prod.Lex.left _ _ (by assumption)

/-- Walks along edges that go well clear the targets of these edges. -/
theorem walkEdges_ok {path done done' : List ShapeId} {s : Shape} {edges : List Member}
    (h : k.walkEdges m path done s edges = .ok done') (hdone : k.IsCleared m done) :
    k.IsCleared m done' ∧ (∀ x ∈ done, x ∈ done') ∧
      ∀ e ∈ edges, k.admits m s e = .ok true → e.target ∈ done' := by
  cases edges with
  | nil =>
    rw [walkEdges_nil] at h
    obtain rfl := Except.ok.inj h
    refine ⟨hdone, fun _ hx => hx, fun e he => ?_⟩
    cases he
  | cons e rest =>
    cases hadmits : k.admits m s e with
    | error err =>
      rw [walkEdges_error hadmits] at h
      cases h
    | ok admitted =>
      cases admitted with
      | false =>
        rw [walkEdges_skip hadmits] at h
        obtain ⟨hcleared, hkeep, htargets⟩ := walkEdges_ok h hdone
        refine ⟨hcleared, hkeep, fun e' he' hadmits' => ?_⟩
        rcases List.mem_cons.1 he' with rfl | he'
        · rw [hadmits] at hadmits'
          cases hadmits'
        · exact htargets e' he' hadmits'
      | true =>
        rw [walkEdges_follow hadmits] at h
        obtain ⟨middle, hwalk, hrest⟩ := bind_eq_ok.1 h
        obtain ⟨hmiddle, hkeep, hid⟩ := walk_ok hwalk hdone
        obtain ⟨hcleared, hkeep', htargets⟩ := walkEdges_ok hrest hmiddle
        refine ⟨hcleared, fun x hx => hkeep' x (hkeep x hx), fun e' he' hadmits' => ?_⟩
        rcases List.mem_cons.1 he' with rfl | he'
        · exact hkeep' _ hid
        · exact htargets e' he' hadmits'
termination_by (m.unseen path, edges.length + 1)
decreasing_by
  all_goals exact Prod.Lex.right _ (by subst_vars; simp)

end

end CycleKind

/-- Where the walks from some shapes go well, no cycle of either kind goes through one of these. -/
theorem Model.checkCycles_ok {m : Model} {requiredDone collectionDone ids : List ShapeId}
    (h : m.checkCycles requiredDone collectionDone ids = .ok ())
    (hrequired : CycleKind.required.IsCleared m requiredDone)
    (hcollection : CycleKind.collection.IsCleared m collectionDone) :
    ∀ id ∈ ids, ¬ Relation.TransGen (CycleKind.required.Edge m) id id ∧
      ¬ Relation.TransGen (CycleKind.collection.Edge m) id id := by
  induction ids generalizing requiredDone collectionDone with
  | nil =>
    intro id hid
    cases hid
  | cons id ids ih =>
    rw [checkCycles] at h
    obtain ⟨requiredDone, hrequiredWalk, h⟩ := bind_eq_ok.1 h
    obtain ⟨collectionDone, hcollectionWalk, h⟩ := bind_eq_ok.1 h
    obtain ⟨hrequired, -, hid⟩ := CycleKind.walk_ok hrequiredWalk hrequired
    obtain ⟨hcollection, -, hid'⟩ := CycleKind.walk_ok hcollectionWalk hcollection
    intro x hx
    rcases List.mem_cons.1 hx with rfl | hx
    · exact ⟨hrequired.acyclic x hid, hcollection.acyclic x hid'⟩
    · exact ih h hrequired hcollection x hx

/-! ## Walks through collections -/

theorem CycleKind.collection_edge_iff {m : Model} {a b : ShapeId} : collection.Edge m a b ↔
    ∃ s, m.shape? a = some s ∧ s.isCollection = true ∧ ∃ e ∈ s.edges, e.target = b := by
  constructor
  · rintro ⟨s, hs, hcollection, e, he, -, htarget⟩
    exact ⟨s, hs, hcollection, e, he, htarget⟩
  · rintro ⟨s, hs, hcollection, e, he, htarget⟩
    exact ⟨s, hs, hcollection, e, he, rfl, htarget⟩

/-- What holds of a shape if it holds of what a collection leads to, with the collection at the end
of the path, holds on every path. -/
theorem Model.path_induction {m : Model} {motive : List ShapeId → ShapeId → Prop}
    (repeated : ∀ path id, id ∈ path → motive path id)
    (undefined : ∀ path id, id ∉ path → m.shape? id = none → motive path id)
    (shape : ∀ path id s, id ∉ path → m.shape? id = some s →
      (∀ e ∈ s.edges, s.isCollection = true → motive (path ++ [id]) e.target) → motive path id)
    (path : List ShapeId) (id : ShapeId) : motive path id := by
  induction hn : m.unseen path using Nat.strongRecOn generalizing path id with
  | ind n ih =>
    by_cases hpath : id ∈ path
    · exact repeated path id hpath
    cases hs : m.shape? id with
    | none => exact undefined path id hpath hs
    | some s =>
      have hfewer : m.unseen (path ++ [id]) < n := by
        rw [← hn]
        exact unseen_lt hs hpath (by simp) fun _ hx => by simp [hx]
      exact shape path id s hpath hs fun e _ _ => ih _ hfewer _ _ rfl

end ClientGen
