import ClientGen.Symbol.Resolve

/-!
# A provider of symbols

A provider remembers what it has resolved. The shapes that it is resolving lie on a path, to which
every call returns; a call that fails remembers nothing but the symbols that were found before it
failed.
-/

namespace ClientGen

/-- The symbols found so far in a model, and the path of the shapes that are being resolved. -/
structure Provider (m : Model) (ns : String) where
  known : List (ShapeId × Symbol)
  resolving : List ShapeId

namespace Provider

variable {m : Model} {ns : String}

/-- A provider that has not resolved anything yet. -/
def new : Provider m ns := ⟨[], []⟩

/-- The symbol that is remembered for a shape. -/
def known? (p : Provider m ns) (id : ShapeId) : Option Symbol :=
  (p.known.find? (·.1 = id)).map (·.2)

/-- The outcome of a call, and the provider after it, which is where it was on its path. -/
abbrev Reply (p : Provider m ns) :=
  Except GenerationError Symbol × { q : Provider m ns // q.resolving = p.resolving }

/-- The path with one more shape on it. -/
def enter (p : Provider m ns) (id : ShapeId) : Provider m ns :=
  { p with resolving := p.resolving ++ [id] }

/-- The path without its last shape. -/
def leave (p : Provider m ns) : Provider m ns := { p with resolving := p.resolving.dropLast }

/-- One more symbol is remembered. -/
def remember (p : Provider m ns) (id : ShapeId) (symbol : Symbol) : Provider m ns :=
  { p with known := (id, symbol) :: p.known }

@[simp] theorem resolving_enter (p : Provider m ns) (id : ShapeId) :
    (p.enter id).resolving = p.resolving ++ [id] := rfl

@[simp] theorem resolving_remember (p : Provider m ns) (id : ShapeId) (symbol : Symbol) :
    (p.remember id symbol).resolving = p.resolving := rfl

/-- Leaving the shape that was entered leads back. -/
theorem resolving_leave {p q : Provider m ns} {id : ShapeId}
    (h : q.resolving = (p.enter id).resolving) : q.leave.resolving = p.resolving := by
  simp [leave, h]

/-- The way back from a shape that was entered: its symbol is remembered if it was found. -/
def finish (p : Provider m ns) (id : ShapeId)
    (q : { q : Provider m ns // q.resolving = (p.enter id).resolving }) :
    Except GenerationError Symbol → Reply p
  | .ok symbol => (.ok symbol, ⟨q.1.leave.remember id symbol, resolving_leave q.2⟩)
  | .error e => (.error e, ⟨q.1.leave, resolving_leave q.2⟩)

def symbolFor (p : Provider m ns) (id : ShapeId) : Reply p :=
  match p.known? id with
  | some symbol => (.ok symbol, ⟨p, rfl⟩)
  | none =>
    if _hnew : id ∈ p.resolving then
      (.error (.invalidGraph .collectionCycle (p.resolving ++ [id])), ⟨p, rfl⟩)
    else
      let inside : { q : Provider m ns // q.resolving = (p.enter id).resolving } := ⟨p.enter id, rfl⟩
      match _hs : m.shape? id with
      | none => p.finish id inside (.error (.unresolvedShape id (.stage "symbol resolution")))
      | some s =>
        match s.kind with
        | .structure _ | .union _ => p.finish id inside (.ok (s.finishSymbol (s.recordSymbol ns)))
        | .enum _ => p.finish id inside (.ok (s.finishSymbol (s.enumSymbol ns)))
        | .primitive prim => p.finish id inside ((s.scalarSymbol prim).map s.finishSymbol)
        | .list e | .set e =>
          let (element, q) := (p.enter id).symbolFor e.target
          p.finish id q (element.map fun element => s.finishSymbol (s.listSymbol element))
        | .map k v =>
          match (p.enter id).symbolFor k.target with
          | (.error e, q) => p.finish id q (.error e)
          | (.ok key, q) =>
            let (value, r) := q.1.symbolFor v.target
            p.finish id ⟨r.1, r.2.trans q.2⟩
              (value.map fun value => s.finishSymbol (s.mapSymbol key value))
termination_by m.unseen p.resolving
decreasing_by
  all_goals
    try rw [q.2]
    exact Model.unseen_lt _hs _hnew (by simp) fun _ h => by simp [h]

def memberSymbol (p : Provider m ns) (owner : ShapeId) (e : Member) : Reply p :=
  match p.symbolFor e.target with
  | (.ok target, q) => (m.refineSymbol owner e target, q)
  | (.error err, q) => (.error err, q)

end Provider

end ClientGen
