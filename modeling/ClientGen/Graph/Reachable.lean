import ClientGen.Model.Resolve

/-!
# The shapes that a service needs

They are the inputs and outputs of its operations, and everything that the edges of the shapes lead
to.
-/

namespace ClientGen

namespace Model

/-- A shape to visit, and what refers to it. -/
abbrev Visit := ShapeId × Referrer

/-- The visits that the edges of a shape ask for, the last edge first. -/
def edgeVisits (s : Shape) : List Visit :=
  (s.edges.map fun e => (e.target, Referrer.member s.id e.name)).reverse

/-- The shapes seen, and all that the pending visits lead to. The latest visit is made first. -/
def closure (m : Model) (seen : List ShapeId) (pending : List Visit) :
    Except GenerationError (List ShapeId) :=
  match pending with
  | [] => .ok seen
  | (id, from_) :: pending =>
    if _hseen : id ∈ seen then m.closure seen pending
    else
      match _hs : m.shape? id with
      | none => .error (.unresolvedShape id from_)
      | some s => m.closure (SortedSet.insert id seen) (edgeVisits s ++ pending)
termination_by (m.unseen seen, pending.length)
decreasing_by
  · simp only [List.length_cons]
    exact Prod.Lex.right _ (Nat.lt_succ_self _)
  · exact Prod.Lex.left _ _ (unseen_lt _hs _hseen (SortedSet.mem_insert.2 (.inl rfl))
      fun _ h => SortedSet.mem_insert.2 (.inr h))

/-- The visits that the operations of a service ask for, the last one first. An operation that is
not defined asks for none. -/
def serviceVisits (m : Model) (s : Service) : List Visit :=
  (s.operations.flatMap fun op =>
    match m.operation? op with
    | some o => (o.input.toList ++ o.output.toList).map fun io => (io, Referrer.operation op)
    | none => []).reverse

/-- The shapes that a service needs, in ascending order. -/
def reachable (m : Model) (service : ShapeId) : Except GenerationError (List ShapeId) := do
  let s ← m.resolveService service
  m.closure [] (m.serviceVisits s)

end Model

end ClientGen
