import ClientGen.Proofs.Graph.Cycles
import ClientGen.Symbol.Resolve

/-!
# Symbols and the paths that lead to them

While a shape is resolved, the path to it serves only to notice a collection that contains itself.
A shape that gets a symbol leads through collections to no shape of its path and not back to itself,
so it gets the same symbol on every path that it does not lead to.
-/

namespace ClientGen

/-- The symbol of a shape, by those of the shapes that its edges lead to. -/
def Shape.symbolWith (s : Shape) (ns : String)
    (symbolOf : ShapeId → Except GenerationError Symbol) : Except GenerationError Symbol :=
  match s.kind with
  | .structure _ | .union _ => .ok (s.finishSymbol (s.recordSymbol ns))
  | .enum _ => .ok (s.finishSymbol (s.enumSymbol ns))
  | .primitive p => (s.scalarSymbol p).map s.finishSymbol
  | .list e | .set e =>
    (symbolOf e.target).map fun element => s.finishSymbol (s.listSymbol element)
  | .map k v => do
    let key ← symbolOf k.target
    (symbolOf v.target).map fun value => s.finishSymbol (s.mapSymbol key value)

namespace Shape

variable {s : Shape} {ns : String} {f g : ShapeId → Except GenerationError Symbol}

/-- Only what a collection leads to decides its symbol. -/
theorem symbolWith_congr (h : ∀ e ∈ s.edges, s.isCollection = true → f e.target = g e.target) :
    s.symbolWith ns f = s.symbolWith ns g := by
  unfold symbolWith
  cases hkind : s.kind with
  | list e | set e =>
    have he := h e (by simp [edges, hkind]) (by simp [isCollection, hkind])
    simp only [he]
  | map k v =>
    have hk := h k (by simp [edges, hkind]) (by simp [isCollection, hkind])
    have hv := h v (by simp [edges, hkind]) (by simp [isCollection, hkind])
    simp only [hk, hv]
  | _ => rfl

/-- A collection with a symbol leads to shapes with symbols. -/
theorem ok_of_symbolWith {symbol : Symbol} (h : s.symbolWith ns f = .ok symbol)
    (hcollection : s.isCollection = true) : ∀ e ∈ s.edges, ∃ t, f e.target = .ok t := by
  unfold symbolWith at h
  unfold isCollection at hcollection
  unfold edges
  cases hkind : s.kind with
  | list e | set e =>
    simp only [hkind] at h ⊢
    obtain ⟨element, helement, -⟩ := map_eq_ok.1 h
    intro x hx
    obtain rfl := List.mem_singleton.1 hx
    exact ⟨element, helement⟩
  | map k v =>
    simp only [hkind] at h ⊢
    obtain ⟨key, hkey, h⟩ := bind_eq_ok.1 h
    obtain ⟨value, hvalue, -⟩ := map_eq_ok.1 h
    intro x hx
    rcases List.mem_cons.1 hx with rfl | hx
    · exact ⟨key, hkey⟩
    · obtain rfl := List.mem_singleton.1 hx
      exact ⟨value, hvalue⟩
  | _ =>
    rw [hkind] at hcollection
    cases hcollection

end Shape

namespace Model

open Relation

variable {m : Model} {ns : String} {path : List ShapeId} {id : ShapeId} {s : Shape}
  {symbol : Symbol}

/-! ## One shape -/

theorem symbolFrom_cycle (h : id ∈ path) :
    m.symbolFrom ns path id = .error (.invalidGraph .collectionCycle (path ++ [id])) := by
  rw [symbolFrom, dif_pos h]

theorem symbolFrom_undefined (h : id ∉ path) (hs : m.shape? id = none) :
    m.symbolFrom ns path id = .error (.unresolvedShape id (.stage "symbol resolution")) := by
  rw [symbolFrom, dif_neg h, hs]

/-- A new shape is resolved by what its edges lead to, with the shape at the end of the path. -/
theorem symbolFrom_shape (h : id ∉ path) (hs : m.shape? id = some s) :
    m.symbolFrom ns path id = s.symbolWith ns (m.symbolFrom ns (path ++ [id])) := by
  rw [symbolFrom, dif_neg h, hs]
  dsimp only
  unfold Shape.symbolWith
  cases hkind : s.kind with
  | list e | set e =>
    dsimp only
    cases m.symbolFrom ns (path ++ [id]) e.target <;> rfl
  | map k v =>
    dsimp only
    cases m.symbolFrom ns (path ++ [id]) k.target with
    | error err => rfl
    | ok key => cases m.symbolFrom ns (path ++ [id]) v.target <;> rfl
  | _ => rfl

/-! ## Shapes with a symbol -/

theorem ok_of_edge (h : m.symbolFrom ns path id = .ok symbol) {y : ShapeId}
    (hedge : CycleKind.collection.Edge m id y) :
    ∃ t, m.symbolFrom ns (path ++ [id]) y = .ok t := by
  obtain ⟨s, hs, hcollection, e, he, rfl⟩ := CycleKind.collection_edge_iff.1 hedge
  by_cases hpath : id ∈ path
  · rw [symbolFrom_cycle hpath] at h
    cases h
  · rw [symbolFrom_shape hpath hs] at h
    exact Shape.ok_of_symbolWith h hcollection e he

/-- A shape with a symbol leads to no shape of its path. -/
theorem not_mem_of_symbolFrom_ok (h : m.symbolFrom ns path id = .ok symbol) {y : ShapeId}
    (hw : ReflTransGen (CycleKind.collection.Edge m) id y) : y ∉ path := by
  induction hw using ReflTransGen.head_induction_on generalizing path symbol with
  | refl =>
    intro hpath
    rw [symbolFrom_cycle hpath] at h
    cases h
  | head he _ ih =>
    obtain ⟨t, ht⟩ := ok_of_edge h he
    exact fun hpath => ih ht (List.mem_append_left _ hpath)

/-- A shape with a symbol does not lead back to itself. -/
theorem not_transGen_of_symbolFrom_ok (h : m.symbolFrom ns path id = .ok symbol) :
    ¬ TransGen (CycleKind.collection.Edge m) id id := by
  intro hw
  obtain ⟨y, he, hback⟩ := TransGen.head'_iff.1 hw
  obtain ⟨t, ht⟩ := ok_of_edge h he
  exact not_mem_of_symbolFrom_ok ht hback (by simp)

/-- A symbol found on one path is found on every path that the shape does not lead to. -/
theorem symbolFrom_eq_of_ok (h : m.symbolFrom ns path id = .ok symbol) {path' : List ShapeId}
    (hfree : ∀ y, ReflTransGen (CycleKind.collection.Edge m) id y → y ∉ path') :
    m.symbolFrom ns path' id = .ok symbol := by
  induction path, id using path_induction (m := m) generalizing path' symbol with
  | repeated path id hpath =>
    rw [symbolFrom_cycle hpath] at h
    cases h
  | undefined path id hpath hs =>
    rw [symbolFrom_undefined hpath hs] at h
    cases h
  | shape path id s hpath hs ih =>
    have hback := not_transGen_of_symbolFrom_ok h
    rw [symbolFrom_shape hpath hs] at h
    rw [symbolFrom_shape (hfree id .refl) hs, ← h]
    refine Shape.symbolWith_congr fun e he hcollection => ?_
    have hedge := CycleKind.collection_edge_iff.2 ⟨s, hs, hcollection, e, he, rfl⟩
    obtain ⟨t, ht⟩ := Shape.ok_of_symbolWith h hcollection e he
    rw [ht]
    refine ih e he hcollection ht fun y hy hmem => ?_
    rcases List.mem_append.1 hmem with hmem | hmem
    · exact hfree y (.head hedge hy) hmem
    · obtain rfl := List.mem_singleton.1 hmem
      exact hback (.head' hedge hy)

/-- A symbol found anywhere is the symbol of the shape. -/
theorem symbol_eq_of_symbolFrom_ok (h : m.symbolFrom ns path id = .ok symbol) :
    m.symbol ns id = .ok symbol :=
  symbolFrom_eq_of_ok h fun _ _ hmem => by cases hmem

/-- The symbol of a shape is found on every path that leads to it. -/
theorem symbolFrom_eq_of_symbol_ok (h : m.symbol ns id = .ok symbol)
    (hpath : ∀ x ∈ path, TransGen (CycleKind.collection.Edge m) x id) :
    m.symbolFrom ns path id = .ok symbol :=
  symbolFrom_eq_of_ok h fun y hy hmem =>
    not_transGen_of_symbolFrom_ok h (TransGen.trans_right hy (hpath y hmem))

end Model

end ClientGen
