import ClientGen.Proofs.Code.Occurrences

/-!
# Where a value of the input goes

A field of the input is followed through the statements that make a request: from the expressions
that read it to the locals that are bound to these, until a local is bound anew, and into the part
of the request that is set. The input can also be encoded as a whole, and then the value of the
field is under its key until the key is removed.
-/

namespace ClientGen

inductive RequestPart
  | path
  | query (name : String)
  | header (name : String)
  /-- The body is the value. -/
  | payload
  /-- The body is the encoded input. -/
  | encoding
deriving DecidableEq

/-- What has the value of a field of the input. -/
inductive Carrier
  | field (name : String)
  /-- The input on the wire. -/
  | input
  /-- A local that is made of the field. -/
  | «local» (x : String)
  /-- A local that is made of the input on the wire. -/
  | encoded (x : String)

namespace Carrier

def isAt : Carrier → Expr → Bool
  | field f, .field (.source x) name => x == "input" && name == f
  | input, .method (.source x) name _ => x == "input" && name == "encode"
  | «local» x, .source t | encoded x, .source t => t == x
  | _, _ => false

def found? (w : Carrier) (e : Expr) : Option Unit := if w.isAt e then some () else none

def isIn (w : Carrier) (e : Expr) : Bool := e.parts.any w.isAt

/-- The local that is bound to what has the carrier in it. -/
def into (x : String) : Carrier → Carrier
  | field _ | «local» _ => .local x
  | input | encoded _ => .encoded x

def isAmong (names : List String) : Carrier → Bool
  | «local» x | encoded x => names.contains x
  | field _ | input => false

def bodyPart : Carrier → RequestPart
  | field _ | «local» _ => .payload
  | input | encoded _ => .encoding

end Carrier

def Expr.requestPath? : Expr → Option Expr
  | .call f [_, path] => if f = "HttpRequest::new" then some path else none
  | _ => none

/-- The part of the request that the expression sets, and what it sets it to. -/
def Expr.requestPart? : Expr → Option ((Carrier → RequestPart) × Expr)
  | .method (.source x) f [.literal name, value] =>
    if x = "request" ∧ f = "add_query" then some (fun _ => .query name, value) else none
  | .method (.field (.source x) g) f [.literal name, value] =>
    if x = "request" ∧ g = "headers" ∧ f = "insert" then some (fun _ => .header name, value)
    else none
  | .propagate (.method (.source x) f [value]) =>
    if x = "request" ∧ f = "set_json_body" then some (Carrier.bodyPart, value) else none
  | _ => none

namespace Stmt

/-- The part of the request that the statement sets, and what it sets it to. -/
def requestPart? : Stmt → Option ((Carrier → RequestPart) × Expr)
  | .bind _ e | .bindMut _ e => e.requestPath?.map fun path => (fun _ => .path, path)
  | .run e => e.requestPart?
  | .assign (.field (.source x) g) value =>
    if x = "request" ∧ g = "body" then some (Carrier.bodyPart, value) else none
  | _ => none

@[simp] theorem requestPart?_bind (x : String) (e : Expr) : (Stmt.bind x e).requestPart? =
    e.requestPath?.map fun path => (fun _ => .path, path) := rfl

@[simp] theorem requestPart?_bindMut (x : String) (e : Expr) : (Stmt.bindMut x e).requestPart? =
    e.requestPath?.map fun path => (fun _ => .path, path) := rfl

@[simp] theorem requestPart?_run (e : Expr) : (Stmt.run e).requestPart? = e.requestPart? := rfl

@[simp] theorem requestPart?_bindBlock (x : String) (body : List Stmt) :
    (Stmt.bindBlock x body).requestPart? = none := rfl

@[simp] theorem requestPart?_forIn (p : Pattern) (items : Expr) (body : List Stmt) :
    (Stmt.forIn p items body).requestPart? = none := rfl

@[simp] theorem requestPart?_matchOn (subject : Expr) (arms : List Arm) :
    (Stmt.matchOn subject arms).requestPart? = none := rfl

@[simp] theorem requestPart?_result (e : Expr) : (Stmt.result e).requestPart? = none := rfl

def binds : Stmt → List String
  | .bind x _ | .bindMut x _ | .bindTyped x _ _ | .bindBlock x _ => [x]
  | .bindMatch p _ _ => p.names
  | _ => []

/-- Whether what the statement binds is made of the carrier. A request is not. -/
def isMadeOf (w : Carrier) (s : Stmt) : Bool :=
  s.requestPart?.isNone && !(s.occurrences w.found? 0).isEmpty

/-- Whether the statement removes such a key from the object that the name stands for. -/
def removes (isKey : Expr → Bool) (object : String) : Stmt → Bool
  | .run (.method (.source x) f [key]) => x == object && f == "remove" && isKey key
  | _ => false

/-- Whether the statement takes the value out of the carrier. -/
def takesFrom (isKey : Expr → Bool) : Stmt → Carrier → Bool
  | .ifLet (.variant _ object) (.source t) body, .encoded x =>
    t == "&mut " ++ x && body.any (removes isKey object)
  | s, w => w.isAmong s.binds

end Stmt

/-- The carriers that some names become where the subject has the carrier in it. -/
def Carrier.through (w : Carrier) (subject : Expr) (names : List String) : List Carrier :=
  (if w.isIn subject then names.map fun x => w.into x else []) ++
    if w.isAmong names then [] else [w]

/-- The part of the request that the statement itself sets to the value. -/
def Stmt.sets (s : Stmt) (w : Carrier) : List RequestPart :=
  match s.requestPart? with
  | some (part, value) => if w.isIn value then [part w] else []
  | none => []

mutual

/-- The parts of the request that are set to the value inside a statement. -/
def Stmt.inside (isKey : Expr → Bool) : Stmt → Carrier → List RequestPart
  | .forIn p subject body, w | .ifLet p subject body, w =>
    (w.through subject p.names).flatMap (reachedOfStmts isKey body)
  | .ifHolds _ body, w | .bindBlock _ body, w => reachedOfStmts isKey body w
  | .bindMatch _ subject arms, w | .matchOn subject arms, w => reachedOfArms isKey subject arms w
  | .bind _ _, _ | .bindMut _ _, _ | .bindTyped _ _ _, _ | .assign _ _, _ | .run _, _ | .next, _
  | .result _, _ | .fail _ _, _ | .construct _ _, _ | .need _, _ => []

/-- The parts of the request that are set to the value by several statements. -/
def reachedOfStmts (isKey : Expr → Bool) : List Stmt → Carrier → List RequestPart
  | [], _ => []
  | s :: rest, w =>
    s.sets w ++ s.inside isKey w
      ++ (if s.takesFrom isKey w then [] else reachedOfStmts isKey rest w)
      ++ if s.isMadeOf w then s.binds.flatMap fun x => reachedOfStmts isKey rest (w.into x) else []

def reachedOfArms (isKey : Expr → Bool) (subject : Expr) :
    List Arm → Carrier → List RequestPart
  | [], _ => []
  | a :: rest, w => a.inside isKey subject w ++ reachedOfArms isKey subject rest w

def Arm.inside (isKey : Expr → Bool) (subject : Expr) : Arm → Carrier → List RequestPart
  | .block p body, w => (w.through subject p.names).flatMap (reachedOfStmts isKey body)
  | .value _ _, _ | .skip _, _ => []

end

/-! ## Expressions -/

namespace Carrier

variable {w : Carrier}

@[simp] theorem isIn_source (t : String) : w.isIn (.source t) = w.isAt (.source t) := by
  simp [isIn, Expr.parts]

@[simp] theorem isIn_literal (s : String) : w.isIn (.literal s) = false := by
  cases w <;> rfl

theorem partsOfAll_any (args : List Expr) :
    (Expr.partsOfAll args).any w.isAt = args.any w.isIn := by
  induction args with
  | nil => rfl
  | cons e rest ih => rw [Expr.partsOfAll, List.any_append, ih, List.any_cons, isIn]

@[simp] theorem isIn_call (f : String) (args : List Expr) :
    w.isIn (.call f args) = args.any w.isIn := by
  have hself : w.isAt (.call f args) = false := by cases w <;> rfl
  rw [isIn, Expr.parts, List.any_cons, hself, Bool.false_or, partsOfAll_any]

theorem isIn_method (e : Expr) (name : String) (args : List Expr) :
    w.isIn (.method e name args) =
      (w.isAt (.method e name args) || (w.isIn e || args.any w.isIn)) := by
  rw [isIn, Expr.parts, List.any_cons, List.any_append, partsOfAll_any, ← isIn]

/-- A method that does not encode has the carrier only where its parts have it. -/
@[simp] theorem isIn_method_of_ne (e : Expr) {name : String} (h : name ≠ "encode")
    (args : List Expr) : w.isIn (.method e name args) = (w.isIn e || args.any w.isIn) := by
  have hself : w.isAt (.method e name args) = false := by
    cases w <;> cases e <;> simp [isAt, h]
  rw [isIn_method, hself, Bool.false_or]

theorem isIn_field (e : Expr) (name : String) :
    w.isIn (.field e name) = (w.isAt (.field e name) || w.isIn e) := by
  rw [isIn, Expr.parts, List.any_cons, ← isIn]

@[simp] theorem isIn_borrow (e : Expr) : w.isIn e.borrow = w.isIn e := by
  have hself : w.isAt e.borrow = false := by cases w <;> rfl
  rw [isIn, Expr.parts, List.any_cons, hself, Bool.false_or, ← isIn]

@[simp] theorem isIn_deref (e : Expr) : w.isIn e.deref = w.isIn e := by
  have hself : w.isAt e.deref = false := by cases w <;> rfl
  rw [isIn, Expr.parts, List.any_cons, hself, Bool.false_or, ← isIn]

@[simp] theorem isIn_group (e : Expr) : w.isIn e.group = w.isIn e := by
  have hself : w.isAt e.group = false := by cases w <;> rfl
  rw [isIn, Expr.parts, List.any_cons, hself, Bool.false_or, ← isIn]

@[simp] theorem isIn_receiver (e : Expr) : w.isIn e.receiver = w.isIn e := by
  unfold Expr.receiver
  split
  · exact isIn_group e
  · rfl

@[simp] theorem isIn_toOwned (e : Expr) : w.isIn e.toOwned = w.isIn e := by
  simp [Expr.toOwned]

@[simp] theorem bodyPart_into (x : String) : (w.into x).bodyPart = w.bodyPart := by
  cases w <;> rfl

@[simp] theorem isAmong_into (x : String) : (w.into x).isAmong [x] = true := by
  cases w <;> simp [into, isAmong]

theorem isAt_source (x : String) : w.isAt (.source x) = w.isAmong [x] := by
  cases w <;> simp [isAt, isAmong, Bool.beq_eq_decide_eq, eq_comm]

theorem isIn_eq_false_iff {e : Expr} {level : Nat} :
    w.isIn e = false ↔ e.occurrences w.found? level = [] := by
  rw [isIn, List.any_eq_false, Expr.occurrences, List.map_eq_nil_iff, List.filterMap_eq_nil_iff]
  exact forall₂_congr fun e' _ => by simp [found?]

end Carrier

/-! ## Statements -/

variable {isKey : Expr → Bool} {w : Carrier} {part : RequestPart} {rest body : List Stmt}

@[simp] theorem reachedOfStmts_nil : reachedOfStmts isKey [] w = [] := by
  rw [reachedOfStmts]

theorem mem_reachedOfStmts_cons {s : Stmt} : part ∈ reachedOfStmts isKey (s :: rest) w ↔
    part ∈ s.sets w ∨ part ∈ s.inside isKey w ∨
      (s.takesFrom isKey w = false ∧ part ∈ reachedOfStmts isKey rest w) ∨
      (s.isMadeOf w = true ∧ ∃ x ∈ s.binds, part ∈ reachedOfStmts isKey rest (w.into x)) := by
  rw [reachedOfStmts, List.mem_append, List.mem_append, List.mem_append]
  cases s.takesFrom isKey w <;> cases s.isMadeOf w <;> simp [or_assoc]

theorem mem_sets {s : Stmt} {sets : Carrier → RequestPart} {value : Expr}
    (h : s.requestPart? = some (sets, value)) :
    part ∈ s.sets w ↔ w.isIn value = true ∧ part = sets w := by
  rw [Stmt.sets, h]
  cases hin : w.isIn value <;> simp [hin]

@[simp] theorem mem_reached_need (n : Need) : part ∈ reachedOfStmts isKey (.need n :: rest) w ↔
    part ∈ reachedOfStmts isKey rest w := by
  have htakes : (Stmt.need n).takesFrom isKey w = false := by
    cases w <;> simp [Stmt.takesFrom, Stmt.binds, Carrier.isAmong]
  simp [mem_reachedOfStmts_cons, Stmt.sets, Stmt.requestPart?, Stmt.inside, htakes, Stmt.binds]

/-- Behind a statement that binds a name, the name has the value if the statement reads it, and what
the name had before is gone. -/
theorem mem_reached_binding {s : Stmt} {x : String} (hbinds : s.binds = [x])
    (hpart : s.requestPart? = none) (hinside : s.inside isKey w = []) :
    part ∈ reachedOfStmts isKey (s :: rest) w ↔
      (w.isAmong [x] = false ∧ part ∈ reachedOfStmts isKey rest w) ∨
      (s.occurrences w.found? 0 ≠ [] ∧ part ∈ reachedOfStmts isKey rest (w.into x)) := by
  have htakes : s.takesFrom isKey w = w.isAmong [x] := by
    rw [← hbinds]
    cases s <;> cases w <;> first | rfl | simp [Stmt.binds] at hbinds
  have hsets : s.sets w = [] := by rw [Stmt.sets, hpart]
  have hmade : s.isMadeOf w = true ↔ s.occurrences w.found? 0 ≠ [] := by
    simp [Stmt.isMadeOf, hpart]
  simp [mem_reachedOfStmts_cons, hsets, hinside, htakes, hmade, hbinds]

theorem mem_reached_run (e : Expr) : part ∈ reachedOfStmts isKey (.run e :: rest) w ↔
    part ∈ (Stmt.run e).sets w ∨ part ∈ reachedOfStmts isKey rest w := by
  have htakes : (Stmt.run e).takesFrom isKey w = false := by
    cases w <;> simp [Stmt.takesFrom, Stmt.binds, Carrier.isAmong]
  simp [mem_reachedOfStmts_cons, Stmt.inside, htakes, Stmt.binds]

theorem exists_mem_through {subject : Expr} {x : String} {P : Carrier → Prop} :
    (∃ w', w' ∈ w.through subject [x] ∧ P w') ↔
      (w.isIn subject = true ∧ P (w.into x)) ∨ (w.isAmong [x] = false ∧ P w) := by
  unfold Carrier.through
  cases w.isIn subject <;> cases w.isAmong [x] <;> simp

theorem mem_reached_forIn (x : String) (items : Expr) :
    part ∈ reachedOfStmts isKey (.forIn (.name x) items body :: rest) w ↔
      (w.isIn items = true ∧ part ∈ reachedOfStmts isKey body (w.into x)) ∨
      (w.isAmong [x] = false ∧ part ∈ reachedOfStmts isKey body w) ∨
      part ∈ reachedOfStmts isKey rest w := by
  have htakes : (Stmt.forIn (.name x) items body).takesFrom isKey w = false := by
    cases w <;> simp [Stmt.takesFrom, Stmt.binds, Carrier.isAmong]
  simp [mem_reachedOfStmts_cons, Stmt.sets, Stmt.requestPart?, Stmt.inside, htakes, Stmt.binds,
    exists_mem_through, Pattern.names, or_assoc]

theorem mem_reached_ifSome (x : String) (e : Expr) :
    part ∈ reachedOfStmts isKey (.ifLet (.some x) e.borrow body :: rest) w ↔
      (w.isIn e = true ∧ part ∈ reachedOfStmts isKey body (w.into x)) ∨
      (w.isAmong [x] = false ∧ part ∈ reachedOfStmts isKey body w) ∨
      part ∈ reachedOfStmts isKey rest w := by
  have htakes : (Stmt.ifLet (.variant "Some" x) e.borrow body).takesFrom isKey w = false := by
    cases w <;> simp [Stmt.takesFrom, Stmt.binds, Carrier.isAmong]
  simp [mem_reachedOfStmts_cons, Stmt.sets, Stmt.requestPart?, Stmt.inside, htakes, Stmt.binds,
    exists_mem_through, Pattern.names, Pattern.some, or_assoc]

/-! ## Statements that set nothing -/

theorem Stmt.sets_of_none {s : Stmt} (h : s.requestPart? = none) : s.sets w = [] := by
  rw [Stmt.sets, h]

mutual

theorem Stmt.inside_eq_nil : ∀ (s : Stmt) (w : Carrier),
    (∀ t ∈ s.nested, t.requestPart? = none) → s.inside isKey w = []
  | .forIn p subject body, w, h | .ifLet p subject body, w, h => by
    rw [Stmt.inside, List.flatMap_eq_nil_iff]
    intro w' _
    exact reachedOfStmts_eq_nil body w' fun t ht => h t (List.mem_cons_of_mem _ ht)
  | .ifHolds _ body, w, h | .bindBlock _ body, w, h => by
    rw [Stmt.inside]
    exact reachedOfStmts_eq_nil body w fun t ht => h t (List.mem_cons_of_mem _ ht)
  | .bindMatch _ subject arms, w, h | .matchOn subject arms, w, h => by
    rw [Stmt.inside]
    exact reachedOfArms_eq_nil subject arms w fun t ht => h t (List.mem_cons_of_mem _ ht)
  | .bind _ _, _, _ | .bindMut _ _, _, _ | .bindTyped _ _ _, _, _ | .assign _ _, _, _
  | .run _, _, _ | .next, _, _ | .result _, _, _ | .fail _ _, _, _ | .construct _ _, _, _
  | .need _, _, _ => by rw [Stmt.inside]

theorem reachedOfStmts_eq_nil : ∀ (stmts : List Stmt) (w : Carrier),
    (∀ t ∈ nestedStmts stmts, t.requestPart? = none) → reachedOfStmts isKey stmts w = []
  | [], w, _ => rfl
  | s :: rest, w, h => by
    have hself : s.requestPart? = none :=
      h s (List.mem_append_left _ (by cases s <;> simp [Stmt.nested]))
    have hinside := s.inside_eq_nil w fun t ht => h t (List.mem_append_left _ ht)
    have hrest := fun w' => reachedOfStmts_eq_nil rest w'
      fun t ht => h t (List.mem_append_right _ ht)
    rw [reachedOfStmts, Stmt.sets_of_none hself, hinside]
    simp [hrest]

theorem reachedOfArms_eq_nil (subject : Expr) : ∀ (arms : List Arm) (w : Carrier),
      (∀ t ∈ nestedArms arms, t.requestPart? = none) → reachedOfArms isKey subject arms w = []
  | [], w, _ => rfl
  | a :: rest, w, h => by
    rw [reachedOfArms, a.inside_eq_nil subject w fun t ht => h t (List.mem_append_left _ ht),
      reachedOfArms_eq_nil subject rest w fun t ht => h t (List.mem_append_right _ ht)]
    rfl

theorem Arm.inside_eq_nil (subject : Expr) : ∀ (a : Arm) (w : Carrier),
    (∀ t ∈ a.nested, t.requestPart? = none) → a.inside isKey subject w = []
  | .block p body, w, h => by
    rw [Arm.inside, List.flatMap_eq_nil_iff]
    intro w' _
    exact reachedOfStmts_eq_nil body w' h
  | .value _ _, w, _ | .skip _, w, _ => by
    rw [Arm.inside]

end

end ClientGen
