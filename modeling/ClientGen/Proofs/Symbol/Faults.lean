import ClientGen.Proofs.Graph.Soundness
import ClientGen.Proofs.Symbol.Paths

/-!
# What can be wrong with a symbol

In a sound model, shapes and members have symbols as long as their defaults are values of their
types. References that lead nowhere and collections inside themselves do not come up.
-/

namespace ClientGen

/-- A default that its type has no expression for. -/
inductive GenerationError.IsDefaultFault : GenerationError → Prop
  | intro (value : Json.Value) (shape : ShapeId) :
    IsDefaultFault (.config (.unsupportedDefault value shape))

open GenerationError (IsDefaultFault)

theorem Primitive.literal_faults (p : Primitive) (value : Json.Value) (id : ShapeId) :
    FailsOnly IsDefaultFault (p.literal value id) := by
  unfold literal
  cases p.literal? value with
  | some expr => exact .ok expr
  | none => exact .error (.intro value id)

theorem Shape.scalarSymbol_faults (s : Shape) (p : Primitive) :
    FailsOnly IsDefaultFault (s.scalarSymbol p) := by
  unfold scalarSymbol
  cases s.traits.default? with
  | some value => exact (p.literal_faults value s.id).map
  | none => exact .ok p.symbol

namespace Model

variable {m : Model} {ids : List ShapeId} {ns : String}

/-- The symbol of a shape fails at nothing but a default. -/
theorem symbol_faults (h : m.IsSound ids) {id : ShapeId} (hid : id ∈ ids) :
    FailsOnly IsDefaultFault (m.symbol ns id) := by
  refine h.walk_induction (motive := fun path id => FailsOnly IsDefaultFault (m.symbolFrom ns path id))
    (fun path id s hid hnew hs ih => ?_) hid
  rw [symbolFrom_shape hnew hs]
  unfold Shape.symbolWith
  split
  case h_1 | h_2 | h_3 => exact .ok _
  case h_4 p hkind => exact (s.scalarSymbol_faults p).map
  case h_5 e hkind | h_6 e hkind =>
    exact (ih e (by simp [Shape.edges, hkind]) (by simp [Shape.isCollection, hkind])).map
  case h_7 k v hkind =>
    have hcollection : s.isCollection = true := by simp [Shape.isCollection, hkind]
    refine (ih k (by simp [Shape.edges, hkind]) hcollection).bind fun key _ => ?_
    exact (ih v (by simp [Shape.edges, hkind]) hcollection).map

/-! ## Members -/

theorem memberLiteral_faults (h : m.IsClosed ids) {e : Member} (he : e.target ∈ ids)
    (owner : ShapeId) (symbol : Symbol) (value : Json.Value) :
    FailsOnly IsDefaultFault (m.memberLiteral owner e symbol value) := by
  obtain ⟨target, htarget, -⟩ := h.resolveShape he (.owner owner.name)
  unfold memberLiteral
  refine FailsOnly.bind (.of_eq_ok ⟨target, htarget⟩) fun target _ => ?_
  split
  · exact Primitive.literal_faults _ _ e.target
  · exact .ok _
  · exact .ok _
  · exact .ok _
  · exact .ok _
  · exact .error (.intro _ e.target)

theorem refineSymbol_faults (h : m.IsClosed ids) {owner : ShapeId} (howner : owner ∈ ids)
    {e : Member} (he : e.target ∈ ids) (target : Symbol) :
    FailsOnly IsDefaultFault (m.refineSymbol owner e target) := by
  obtain ⟨s, hs, -⟩ := h.resolveShape howner (.stage "member symbol")
  unfold refineSymbol
  refine FailsOnly.bind (.of_eq_ok ⟨s, hs⟩) fun s _ => ?_
  dsimp only
  split
  · exact .ok _
  · split
    · exact (memberLiteral_faults h he owner target _).map.bind fun symbol _ => .ok _
    · exact .ok _

/-- The symbol of a member fails at nothing but a default. -/
theorem memberSymbol_faults (h : m.IsSound ids) {s : Shape} (hs : m.IsAmong ids s) {e : Member}
    (he : e ∈ s.members) : FailsOnly IsDefaultFault (m.memberSymbol ns s.id e) := by
  have htarget : e.target ∈ ids := hs.target h.toIsClosed he
  unfold memberSymbol
  exact (symbol_faults h htarget).bind fun target _ =>
    refineSymbol_faults h.toIsClosed hs.mem htarget target

end Model

end ClientGen
