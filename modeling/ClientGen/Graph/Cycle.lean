import ClientGen.Model.Resolve

/-!
# Cycles that no finite value can have

A structure that requires itself can never be built, and a collection that contains itself has no
type. Both are found by a walk in depth that keeps the path it came by, and the shapes from which it
has shown that no cycle can be reached.
-/

namespace ClientGen

/-- A kind of cycle: which shapes lie on one, and which edges lead along it. -/
structure CycleKind where
  fault : GraphFault
  /-- The walk as a referrer. -/
  stage : String
  /-- Whether the edges of the shape are followed. -/
  expands : Shape → Bool
  /-- The edges that are followed. -/
  edges : Shape → List Member
  /-- Whether the target of an edge is walked to. -/
  admits : Model → Shape → Member → Except GenerationError Bool

namespace CycleKind

/-- Required members between structures. -/
def required : CycleKind where
  fault := .requiredCycle
  stage := "required cycle check"
  expands := Shape.isStructure
  edges := fun s => s.members.filter (·.required)
  admits := fun m s e => (m.resolveShape e.target (.member s.id e.name)).map Shape.isStructure

/-- Edges between collections. -/
def collection : CycleKind where
  fault := .collectionCycle
  stage := "collection cycle check"
  expands := Shape.isCollection
  edges := Shape.edges
  admits := fun _ _ _ => .ok true

mutual

/-- Walks from a shape to which `path` leads; `done` are the shapes known to lead to no cycle, and
the result is `done` with those found in addition. -/
def walk (k : CycleKind) (m : Model) (path done : List ShapeId) (id : ShapeId) :
    Except GenerationError (List ShapeId) :=
  if id ∈ done then .ok done
  else if _hpath : id ∈ path then
    .error (.invalidGraph k.fault (path.dropWhile (· ≠ id) ++ [id]))
  else
    match _hs : m.shape? id with
    | none => .error (.unresolvedShape id (.stage k.stage))
    | some s =>
      if k.expands s then
        match walkEdges k m (path ++ [id]) done s (k.edges s) with
        | .ok done => .ok (id :: done)
        | .error e => .error e
      else .ok (id :: done)
termination_by (m.unseen path, 0)
decreasing_by
  exact Prod.Lex.left _ _ (Model.unseen_lt _hs _hpath (by simp) fun _ h => by simp [h])

/-- Walks along some edges of a shape, one after the other. -/
def walkEdges (k : CycleKind) (m : Model) (path done : List ShapeId) (s : Shape)
    (edges : List Member) : Except GenerationError (List ShapeId) :=
  match edges with
  | [] => .ok done
  | e :: rest =>
    match k.admits m s e with
    | .error err => .error err
    | .ok false => walkEdges k m path done s rest
    | .ok true =>
      match walk k m path done e.target with
      | .ok done => walkEdges k m path done s rest
      | .error err => .error err
termination_by (m.unseen path, edges.length + 1)
decreasing_by
  · exact Prod.Lex.right _ (by simp)
  · exact Prod.Lex.right _ (by simp)
  · exact Prod.Lex.right _ (by simp)

end

end CycleKind

end ClientGen
