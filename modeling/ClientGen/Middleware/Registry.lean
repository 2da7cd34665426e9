import ClientGen.Code.Stmt
import ClientGen.Error
import ClientGen.Order.Topological
import ClientGen.Text.Substitute

/-!
# The middleware of a stack

Phases follow one another; within a phase, heads come first and then the others, each in the order
of registration, as far as the constraints of single entries leave it open. An entry that has to run
before a peer counts as early as that peer.
-/

namespace ClientGen

/-- The place of an entry in its phase. -/
inductive Position
  /-- Before all that are no heads. -/
  | head
  /-- After all heads. -/
  | tail
  | before (peer : String)
  | after (peer : String)
deriving DecidableEq, Inhabited

structure Middleware where
  name : String
  step : Step
  position : Position
  /-- The expression that makes it; `\x7boperation\x7d` in it stands for the name of the operation.
  -/
  constructor : String
deriving DecidableEq, Inhabited

/-- The entries of one stack, in the order of registration. -/
structure Registry where
  stack : String
  entries : List Middleware

/-- Why the entries of a phase have no order. -/
inductive OrderFault
  | unknownPeer (name peer : String)
  | cycle (names : List String)
deriving DecidableEq

namespace Registry

/-- A registry without entries. -/
def new (stack : String) : Registry := ⟨stack, []⟩

/-! ## One phase -/

/-- The entries of a phase in their base order: heads first, then the others. -/
def baseOrder (r : Registry) (step : Step) : List Middleware :=
  let inStep := r.entries.filter (·.step = step)
  inStep.filter (·.position = .head) ++ inStep.filter (·.position ≠ .head)

/-- Whether a constraint says that `a` comes before `b`. -/
def precedes (a b : Middleware) : Bool := a.position = .before b.name || b.position = .after a.name

/-- The constraints between some entries. -/
def constraints (base : List Middleware) : Graph base.length := fun i j => precedes base[i] base[j]

/-- The peer that the position of an entry names. -/
def peer? (d : Middleware) : Option String :=
  match d.position with
  | .before peer | .after peer => some peer
  | .head | .tail => none

/-- The name of an entry whose peer is none of the entries, with the peer. -/
def danglingPeer? (base : List Middleware) (d : Middleware) : Option (String × String) :=
  match peer? d with
  | some peer => if base.any (·.name == peer) then none else some (d.name, peer)
  | none => none

/-- The first entry whose peer is none of the entries, with the peer. -/
def unknownPeer? (base : List Middleware) : Option (String × String) :=
  base.findSome? (danglingPeer? base)

/-- The names of some entries by their numbers. -/
def namesAt (base : List Middleware) (l : List (Fin base.length)) : List String :=
  l.map fun i => base[i].name

/-- Some entries in the order that their constraints ask for. -/
def arrange (base : List Middleware) : Except OrderFault (List Middleware) :=
  let g := constraints base
  match g.order id with
  | .error stuck => .error (.cycle (namesAt base stuck))
  | .ok topological =>
    let keys := g.leastReached topological
    match g.order fun i => keys[i] with
    | .error _ => .error (.cycle [])
    | .ok order => .ok (order.map fun i => base[i])

/-- The entries of a phase in order. Where `strict` holds, every peer has to be one of them. -/
def arrangeStep (r : Registry) (step : Step) (strict : Bool) :
    Except OrderFault (List Middleware) :=
  let base := r.baseOrder step
  match if strict then unknownPeer? base else none with
  | some (name, peer) => .error (.unknownPeer name peer)
  | none => arrange base

/-! ## All phases -/

/-- What is wrong with a phase, as an error of the entry with the name. -/
def orderError (step : Step) (name : List String → String) : OrderFault → GenerationError
  | .unknownPeer name peer => .unknownPeer name peer step
  | .cycle names => .contradictoryOrder (name names) step names

/-- A call that registers an entry: its answer, and the registry after it. The entry is put to the
others before its phase is arranged, and taken away again where the phase has no order. -/
def submit (r : Registry) (d : Middleware) : Except GenerationError Unit × Registry :=
  if r.entries.any (·.name == d.name) then (.error (.duplicateMiddleware d.name r.stack), r)
  else
    let more := { r with entries := r.entries ++ [d] }
    match more.arrangeStep d.step false with
    | .error fault =>
      (.error (orderError d.step (fun _ => d.name) fault),
        { more with entries := more.entries.dropLast })
    | .ok _ => (.ok (), more)

/-- The registry with one more entry, whose name is new and whose constraints leave an order. -/
def register (r : Registry) (d : Middleware) : Except GenerationError Registry :=
  match r.submit d with
  | (.ok (), r) => .ok r
  | (.error e, _) => .error e

/-- The registry with some entries registered one after the other. -/
def registerAll (r : Registry) (ds : List Middleware) : Except GenerationError Registry :=
  ds.foldlM register r

/-- All entries in the order of the stack. -/
def resolve (r : Registry) : Except GenerationError (List Middleware) := do
  let steps ← Step.all.mapM fun step =>
    (r.arrangeStep step true).mapError (orderError step (·.headD ""))
  pure steps.flatten

/-- The statement that adds an entry to the stack bound to a name. -/
def push (operation : ShapeId) (stack : String) (d : Middleware) : Stmt :=
  let expr := Text.replaceAll d.constructor "\x7boperation\x7d" operation.name
  .run (.method (.source stack) "push" [.source d.step.path, .source expr])

/-- The statements that add all entries to a stack. -/
def render (r : Registry) (operation : ShapeId) (stack : String) :
    Except GenerationError (List Stmt) := do
  pure ((← r.resolve).map (push operation stack))

end Registry

end ClientGen
