import ClientGen.Model.Resolve

/-!
# Which members have to be boxed

A member of a structure or union that leads back to its owner by members alone would make the owner
contain itself by value. Paths through collections do not count, because collections keep their
elements elsewhere.
-/

namespace ClientGen

namespace Model

/-- Whether the identifier is that of a structure or union. -/
def isRecord (m : Model) (id : ShapeId) : Bool := (m.shape? id).any Shape.isRecord

/-- The structures and unions that a shape holds by value. -/
def recordTargets (m : Model) (s : Shape) : List ShapeId :=
  (s.members.map (·.target)).filter m.isRecord

/-- The shapes seen, and all that the pending ones hold by value, directly or not. -/
def heldFrom (m : Model) (seen pending : List ShapeId) : List ShapeId :=
  match pending with
  | [] => seen
  | id :: pending =>
    if _hseen : id ∈ seen then m.heldFrom seen pending
    else
      match _hs : m.shape? id with
      | none => m.heldFrom seen pending
      | some s => m.heldFrom (id :: seen) (m.recordTargets s ++ pending)
termination_by (m.unseen seen, pending.length)
decreasing_by
  · simp only [List.length_cons]
    exact Prod.Lex.right _ (Nat.lt_succ_self _)
  · simp only [List.length_cons]
    exact Prod.Lex.right _ (Nat.lt_succ_self _)
  · exact Prod.Lex.left _ _ (unseen_lt _hs _hseen (by simp) fun _ h => by simp [h])

/-- Whether `owner` lies behind one of its members of the name. -/
def needsBox (m : Model) (owner : ShapeId) (name : String) : Bool :=
  (m.shape? owner).any fun s => s.members.any fun e =>
    e.name == name && m.isRecord e.target && (m.heldFrom [] [e.target]).contains owner

/-- The members to box, as owner and name, in the order of the shapes and of their members. -/
def boxedMembers (m : Model) : List (ShapeId × String) :=
  m.shapes.entries.flatMap fun s =>
    (s.members.filter fun e => m.needsBox s.id e.name).map fun e => (s.id, e.name)

end Model

end ClientGen
