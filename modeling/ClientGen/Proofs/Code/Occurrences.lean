import ClientGen.Code.Stmt

/-!
# What occurs in code

The expressions of some statements, with all inside them, in the order of the text. Each occurrence
comes with its level, the number of bound blocks and matches in which it stands. The statements
themselves are listed with all statements inside them.
-/

namespace ClientGen

namespace Expr

mutual

/-- The expression and all expressions inside it. -/
def parts : Expr → List Expr
  | source t => [source t]
  | literal s => [literal s]
  | call f args => call f args :: partsOfAll args
  | method r name args => method r name args :: (r.parts ++ partsOfAll args)
  | field e name => field e name :: e.parts
  | propagate e => propagate e :: e.parts
  | borrow e => borrow e :: e.parts
  | deref e => deref e :: e.parts
  | group e => group e :: e.parts
  | record path fields => record path fields :: partsOfFields fields

def partsOfAll : List Expr → List Expr
  | [] => []
  | e :: rest => e.parts ++ partsOfAll rest

def partsOfFields : List (String × Expr) → List Expr
  | [] => []
  | (_, e) :: rest => e.parts ++ partsOfFields rest

end

theorem mem_partsOfAll {x : Expr} {es : List Expr} :
    x ∈ partsOfAll es ↔ ∃ e ∈ es, x ∈ e.parts := by
  induction es with
  | nil => simp [partsOfAll]
  | cons e es ih => simp [partsOfAll, ih]

variable {α : Type} (f : Expr → Option α)

def occurrences (level : Nat) (e : Expr) : List (Nat × α) :=
  (e.parts.filterMap f).map fun a => (level, a)

/-- Nothing is found in the expression. -/
def Lacks (e : Expr) : Prop := ∀ x ∈ e.parts, f x = none

variable {f} {e r : Expr} {name : String} {args : List Expr}

theorem lacks_source {text : String} (h : f (source text) = none) : (source text).Lacks f :=
  List.forall_mem_singleton.2 h

theorem lacks_literal {text : String} (h : f (literal text) = none) : (literal text).Lacks f :=
  List.forall_mem_singleton.2 h

theorem lacks_call (h : f (call name args) = none) (hargs : ∀ a ∈ args, a.Lacks f) :
    (call name args).Lacks f := by
  refine List.forall_mem_cons.2 ⟨h, fun x hx => ?_⟩
  obtain ⟨a, ha, hx⟩ := mem_partsOfAll.1 hx
  exact hargs a ha x hx

theorem lacks_method (h : f (method r name args) = none) (hr : r.Lacks f)
    (hargs : ∀ a ∈ args, a.Lacks f) : (method r name args).Lacks f := by
  refine List.forall_mem_cons.2 ⟨h, List.forall_mem_append.2 ⟨hr, fun x hx => ?_⟩⟩
  obtain ⟨a, ha, hx⟩ := mem_partsOfAll.1 hx
  exact hargs a ha x hx

theorem lacks_propagate (h : f (propagate e) = none) (he : e.Lacks f) : (propagate e).Lacks f :=
  List.forall_mem_cons.2 ⟨h, he⟩

theorem lacks_deref (h : f (deref e) = none) (he : e.Lacks f) : (deref e).Lacks f :=
  List.forall_mem_cons.2 ⟨h, he⟩

theorem Lacks.filterMap (h : e.Lacks f) : e.parts.filterMap f = [] :=
  List.filterMap_eq_nil_iff.2 h

theorem Lacks.occurrences (h : e.Lacks f) (level : Nat) : e.occurrences f level = [] := by
  rw [Expr.occurrences, h.filterMap, List.map_nil]

theorem Lacks.receiver (h : e.Lacks f) (hgroup : f e.group = none) : e.receiver.Lacks f := by
  unfold Expr.receiver
  split
  · exact List.forall_mem_cons.2 ⟨hgroup, h⟩
  · exact h

end Expr

variable {α : Type} (f : Expr → Option α)

mutual

def Stmt.occurrences (level : Nat) : Stmt → List (Nat × α)
  | .bind _ e | .bindMut _ e | .bindTyped _ _ e | .run e | .result e => e.occurrences f level
  | .bindBlock _ body => occurrencesOfStmts (level + 1) body
  | .bindMatch _ subject arms =>
    subject.occurrences f (level + 1) ++ occurrencesOfArms (level + 1) arms
  | .forIn _ e body | .ifHolds e body | .ifLet _ e body =>
    e.occurrences f level ++ occurrencesOfStmts level body
  | .matchOn subject arms => subject.occurrences f level ++ occurrencesOfArms level arms
  | .assign place value => place.occurrences f level ++ value.occurrences f level
  | .fail _ fields => fields.flatMap fun field => field.2.occurrences f level
  | .construct _ fields => fields.flatMap fun field =>
    (field.2.map fun e => e.occurrences f level).getD []
  | .next | .need _ => []

/-- What is found in several statements. -/
def occurrencesOfStmts (level : Nat) : List Stmt → List (Nat × α)
  | [] => []
  | s :: rest => s.occurrences level ++ occurrencesOfStmts level rest

/-- What is found in an arm of a match. -/
def Arm.occurrences (level : Nat) : Arm → List (Nat × α)
  | .value _ e => e.occurrences f level
  | .block _ body => occurrencesOfStmts level body
  | .skip _ => []

def occurrencesOfArms (level : Nat) : List Arm → List (Nat × α)
  | [] => []
  | a :: rest => a.occurrences level ++ occurrencesOfArms level rest

end

variable {f}

theorem occurrencesOfStmts_append (level : Nat) (front back : List Stmt) :
    occurrencesOfStmts f level (front ++ back) =
      occurrencesOfStmts f level front ++ occurrencesOfStmts f level back := by
  induction front with
  | nil => rfl
  | cons s front ih => rw [List.cons_append, occurrencesOfStmts, ih, occurrencesOfStmts,
      List.append_assoc]

theorem occurrencesOfStmts_eq_flatMap (level : Nat) (stmts : List Stmt) :
    occurrencesOfStmts f level stmts = stmts.flatMap (Stmt.occurrences f level) := by
  induction stmts with
  | nil => rfl
  | cons s stmts ih => rw [occurrencesOfStmts, ih, List.flatMap_cons]

theorem occurrencesOfStmts_flatten (level : Nat) (stmts : List (List Stmt)) :
    occurrencesOfStmts f level stmts.flatten = stmts.flatMap (occurrencesOfStmts f level) := by
  induction stmts with
  | nil => rfl
  | cons s stmts ih => rw [List.flatten_cons, occurrencesOfStmts_append, ih, List.flatMap_cons]

/-! ## Statements -/

mutual

/-- The statement and all statements inside it. -/
def Stmt.nested : Stmt → List Stmt
  | .bindBlock x body => .bindBlock x body :: nestedStmts body
  | .bindMatch p subject arms => .bindMatch p subject arms :: nestedArms arms
  | .forIn p items body => .forIn p items body :: nestedStmts body
  | .ifHolds condition body => .ifHolds condition body :: nestedStmts body
  | .ifLet p subject body => .ifLet p subject body :: nestedStmts body
  | .matchOn subject arms => .matchOn subject arms :: nestedArms arms
  | s => [s]

/-- Some statements and all statements inside them. -/
def nestedStmts : List Stmt → List Stmt
  | [] => []
  | s :: rest => s.nested ++ nestedStmts rest

/-- The statements of an arm and all inside them. -/
def Arm.nested : Arm → List Stmt
  | .block _ body => nestedStmts body
  | .value _ _ | .skip _ => []

/-- The statements of several arms and all inside them. -/
def nestedArms : List Arm → List Stmt
  | [] => []
  | a :: rest => a.nested ++ nestedArms rest

end

theorem nestedStmts_append (front back : List Stmt) :
    nestedStmts (front ++ back) = nestedStmts front ++ nestedStmts back := by
  induction front with
  | nil => rfl
  | cons s front ih => rw [List.cons_append, nestedStmts, ih, nestedStmts, List.append_assoc]

end ClientGen
