import ClientGen.Proofs.Code.Needs
import ClientGen.Proofs.Code.Occurrences

/-!
# Which functions code calls

A function is called by itself, or by a closure over the elements of a list. Code keeps to some
functions if it calls no others and takes nothing from elsewhere but names; this is looked at
statement by statement, and says all that is to be known of the calls and of the needs of the whole.
-/

namespace ClientGen

/-! ## Expressions -/

namespace Expr

/-- The expression is a call of the function, or applies to all elements of a list a closure that
calls the function with its parameter. -/
inductive Calls (f : String) : Expr → Prop
  | call (args : List Expr) : Calls f (.call f args)
  | closure (list : Expr) (x rest : String) :
    Calls f (.method list "map" [.source s!"|{x}| {f}({x}){rest}"])

/-- All functions that are called in the expression are such functions. -/
def KeepsTo (F : String → Prop) (e : Expr) : Prop := ∀ x ∈ e.parts, ∀ f, x.Calls f → F f

variable {F : String → Prop} {e r : Expr} {f name text : String} {args : List Expr}

@[simp] theorem keepsTo_source : (source text).KeepsTo F := by
  intro x hx f hf
  obtain rfl := List.mem_singleton.1 hx
  cases hf

@[simp] theorem keepsTo_literal : (literal text).KeepsTo F := by
  intro x hx f hf
  obtain rfl := List.mem_singleton.1 hx
  cases hf

@[simp] theorem keepsTo_call :
    (call f args).KeepsTo F ↔ F f ∧ ∀ a ∈ args, a.KeepsTo F := by
  constructor
  · intro h
    refine ⟨h _ List.mem_cons_self f (.call args), fun a ha x hx => ?_⟩
    exact h x (List.mem_cons_of_mem _ (mem_partsOfAll.2 ⟨a, ha, hx⟩))
  · rintro ⟨hf, hargs⟩ x hx g hg
    rcases List.mem_cons.1 hx with rfl | hx
    · cases hg
      exact hf
    · obtain ⟨a, ha, hx⟩ := mem_partsOfAll.1 hx
      exact hargs a ha x hx g hg

/-- What a method is given is not called, unless it maps a closure over a list. -/
theorem keepsTo_method (hname : name ≠ "map") :
    (method r name args).KeepsTo F ↔ r.KeepsTo F ∧ ∀ a ∈ args, a.KeepsTo F := by
  have hparts (x : Expr) : x ∈ (method r name args).parts ↔
      x = method r name args ∨ x ∈ r.parts ∨ ∃ a ∈ args, x ∈ a.parts := by
    rw [parts, List.mem_cons, List.mem_append, mem_partsOfAll]
  constructor
  · intro h
    exact ⟨fun x hx => h x ((hparts x).2 (.inr (.inl hx))),
      fun a ha x hx => h x ((hparts x).2 (.inr (.inr ⟨a, ha, hx⟩)))⟩
  · rintro ⟨hr, hargs⟩ x hx g hg
    rcases (hparts x).1 hx with rfl | hx | ⟨a, ha, hx⟩
    · cases hg
      exact absurd rfl hname
    · exact hr x hx g hg
    · exact hargs a ha x hx g hg

/-- A closure over a list calls what it applies to its parameter. -/
theorem keepsTo_map (hlist : r.KeepsTo F)
    (h : ∀ f x rest : String, text = s!"|{x}| {f}({x}){rest}" → F f) :
    (method r "map" [source text]).KeepsTo F := by
  intro x hx g hg
  rcases List.mem_cons.1 hx with rfl | hx
  · cases hg with
    | closure _ y rest => exact h g y rest rfl
  · rcases List.mem_append.1 hx with hx | hx
    · exact hlist x hx g hg
    · exact keepsTo_source x (by simpa [partsOfAll] using hx) g hg

section

variable (e)

/-- An expression around another one that is no call itself. -/
theorem keepsTo_around {outer : Expr} (hparts : outer.parts = outer :: e.parts)
    (houter : ∀ f, ¬ outer.Calls f) : outer.KeepsTo F ↔ e.KeepsTo F := by
  unfold KeepsTo
  rw [hparts]
  constructor
  · exact fun h x hx => h x (List.mem_cons_of_mem _ hx)
  · intro h x hx g hg
    rcases List.mem_cons.1 hx with rfl | hx
    · exact absurd hg (houter g)
    · exact h x hx g hg

@[simp] theorem keepsTo_field : (field e name).KeepsTo F ↔ e.KeepsTo F :=
  keepsTo_around e rfl fun _ h => by cases h

@[simp] theorem keepsTo_propagate : (propagate e).KeepsTo F ↔ e.KeepsTo F :=
  keepsTo_around e rfl fun _ h => by cases h

@[simp] theorem keepsTo_borrow : (borrow e).KeepsTo F ↔ e.KeepsTo F :=
  keepsTo_around e rfl fun _ h => by cases h

@[simp] theorem keepsTo_deref : (deref e).KeepsTo F ↔ e.KeepsTo F :=
  keepsTo_around e rfl fun _ h => by cases h

@[simp] theorem keepsTo_group : (group e).KeepsTo F ↔ e.KeepsTo F :=
  keepsTo_around e rfl fun _ h => by cases h

@[simp] theorem keepsTo_receiver : e.receiver.KeepsTo F ↔ e.KeepsTo F := by
  unfold receiver
  split
  · exact keepsTo_group e
  · exact .rfl

@[simp] theorem keepsTo_toOwned : e.toOwned.KeepsTo F ↔ e.KeepsTo F := by
  rw [toOwned, keepsTo_method (by decide)]
  simp

end

theorem mem_partsOfFields {x : Expr} {fields : List (String × Expr)} :
    x ∈ partsOfFields fields ↔ ∃ field ∈ fields, x ∈ field.2.parts := by
  induction fields with
  | nil => simp [partsOfFields]
  | cons field fields ih => simp [partsOfFields, ih]

@[simp] theorem keepsTo_record {path : String} {fields : List (String × Expr)} :
    (record path fields).KeepsTo F ↔ ∀ field ∈ fields, field.2.KeepsTo F := by
  constructor
  · intro h field hfield x hx
    exact h x (List.mem_cons_of_mem _ (mem_partsOfFields.2 ⟨field, hfield, hx⟩))
  · intro h x hx g hg
    rcases List.mem_cons.1 hx with rfl | hx
    · cases hg
    · obtain ⟨field, hfield, hx⟩ := mem_partsOfFields.1 hx
      exact h field hfield x hx g hg

end Expr

/-! ## Statements -/

/-- The need is of a name, and not of a type or a package. -/
def Need.IsItem : Need → Prop
  | .item .. => True
  | .type _ | .package _ => False

variable (F : String → Prop)

mutual

/-- The statement calls such functions only, and needs names only. -/
def Stmt.KeepsTo : Stmt → Prop
  | .bind _ e | .bindMut _ e | .bindTyped _ _ e | .run e | .result e => e.KeepsTo F
  | .bindBlock _ body => StmtsKeepTo body
  | .bindMatch _ subject arms | .matchOn subject arms => subject.KeepsTo F ∧ ArmsKeepTo arms
  | .forIn _ e body | .ifHolds e body | .ifLet _ e body => e.KeepsTo F ∧ StmtsKeepTo body
  | .assign place value => place.KeepsTo F ∧ value.KeepsTo F
  | .fail _ fields => ∀ field ∈ fields, field.2.KeepsTo F
  | .construct _ fields => ∀ field ∈ fields, ∀ e, field.2 = some e → e.KeepsTo F
  | .next => True
  | .need n => n.IsItem

/-- Each of the statements keeps to the functions. -/
def StmtsKeepTo : List Stmt → Prop
  | [] => True
  | s :: rest => s.KeepsTo ∧ StmtsKeepTo rest

def Arm.KeepsTo : Arm → Prop
  | .value _ e => e.KeepsTo F
  | .block _ body => StmtsKeepTo body
  | .skip _ => True

def ArmsKeepTo : List Arm → Prop
  | [] => True
  | a :: rest => a.KeepsTo ∧ ArmsKeepTo rest

end

variable {F}

theorem stmtsKeepTo_iff {stmts : List Stmt} :
    StmtsKeepTo F stmts ↔ ∀ s ∈ stmts, s.KeepsTo F := by
  induction stmts with
  | nil => simp [StmtsKeepTo]
  | cons s stmts ih => rw [StmtsKeepTo, ih, List.forall_mem_cons]

theorem armsKeepTo_iff {arms : List Arm} : ArmsKeepTo F arms ↔ ∀ a ∈ arms, a.KeepsTo F := by
  induction arms with
  | nil => simp [ArmsKeepTo]
  | cons a arms ih => rw [ArmsKeepTo, ih, List.forall_mem_cons]

@[simp] theorem stmtsKeepTo_append {front back : List Stmt} :
    StmtsKeepTo F (front ++ back) ↔ StmtsKeepTo F front ∧ StmtsKeepTo F back := by
  rw [stmtsKeepTo_iff, stmtsKeepTo_iff, stmtsKeepTo_iff, List.forall_mem_append]

@[simp] theorem armsKeepTo_append {front back : List Arm} :
    ArmsKeepTo F (front ++ back) ↔ ArmsKeepTo F front ∧ ArmsKeepTo F back := by
  rw [armsKeepTo_iff, armsKeepTo_iff, armsKeepTo_iff, List.forall_mem_append]

theorem stmtsKeepTo_flatten {stmts : List (List Stmt)} :
    StmtsKeepTo F stmts.flatten ↔ ∀ l ∈ stmts, StmtsKeepTo F l := by
  induction stmts with
  | nil => simp [StmtsKeepTo]
  | cons l stmts ih => rw [List.flatten_cons, stmtsKeepTo_append, ih, List.forall_mem_cons]

/-! ## Calls and needs of the whole -/

/-- The function is called somewhere in the statements. -/
def CallsIn (f : String) (stmts : List Stmt) : Prop :=
  ∃ x ∈ occurrencesOfStmts some 0 stmts, x.2.Calls f

theorem Expr.KeepsTo.occurrences {e : Expr} (h : e.KeepsTo F) (level : Nat) :
    ∀ x ∈ e.occurrences some level, ∀ f, x.2.Calls f → F f := by
  intro x hx f hf
  obtain ⟨y, hy, rfl⟩ := List.mem_map.1 hx
  rw [List.filterMap_some] at hy
  exact h y hy f hf

mutual

/-- What a statement keeps to, each expression that occurs in it does, at whatever level. -/
theorem Stmt.KeepsTo.occurrences {s : Stmt} (h : s.KeepsTo F) (level : Nat) :
    ∀ x ∈ s.occurrences some level, ∀ f, x.2.Calls f → F f := by
  cases s with
  | bind | bindMut | bindTyped | run | result =>
    rw [Stmt.KeepsTo] at h
    exact h.occurrences level
  | bindBlock x body =>
    rw [Stmt.KeepsTo] at h
    exact StmtsKeepTo.occurrences h (level + 1)
  | bindMatch p subject arms =>
    rw [Stmt.KeepsTo] at h
    rw [Stmt.occurrences, List.forall_mem_append]
    exact ⟨h.1.occurrences (level + 1), ArmsKeepTo.occurrences h.2 (level + 1)⟩
  | matchOn subject arms =>
    rw [Stmt.KeepsTo] at h
    rw [Stmt.occurrences, List.forall_mem_append]
    exact ⟨h.1.occurrences level, ArmsKeepTo.occurrences h.2 level⟩
  | forIn p e body | ifHolds e body | ifLet p e body =>
    rw [Stmt.KeepsTo] at h
    rw [Stmt.occurrences, List.forall_mem_append]
    exact ⟨h.1.occurrences level, StmtsKeepTo.occurrences h.2 level⟩
  | assign place value =>
    rw [Stmt.KeepsTo] at h
    rw [Stmt.occurrences, List.forall_mem_append]
    exact ⟨h.1.occurrences level, h.2.occurrences level⟩
  | fail error fields =>
    rw [Stmt.KeepsTo] at h
    rw [Stmt.occurrences]
    intro x hx
    obtain ⟨field, hfield, hx⟩ := List.mem_flatMap.1 hx
    exact (h field hfield).occurrences level x hx
  | construct success fields =>
    rw [Stmt.KeepsTo] at h
    rw [Stmt.occurrences]
    intro x hx
    obtain ⟨⟨name, value⟩, hfield, hx⟩ := List.mem_flatMap.1 hx
    cases value with
    | none => cases hx
    | some e => exact (h _ hfield e rfl).occurrences level x hx
  | next | need =>
    rw [Stmt.occurrences]
    exact List.forall_mem_nil _

theorem StmtsKeepTo.occurrences {stmts : List Stmt} (h : StmtsKeepTo F stmts) (level : Nat) :
    ∀ x ∈ occurrencesOfStmts some level stmts, ∀ f, x.2.Calls f → F f := by
  cases stmts with
  | nil => exact List.forall_mem_nil _
  | cons s rest =>
    rw [StmtsKeepTo] at h
    rw [occurrencesOfStmts, List.forall_mem_append]
    exact ⟨Stmt.KeepsTo.occurrences h.1 level, StmtsKeepTo.occurrences h.2 level⟩

theorem Arm.KeepsTo.occurrences {a : Arm} (h : a.KeepsTo F) (level : Nat) :
    ∀ x ∈ a.occurrences some level, ∀ f, x.2.Calls f → F f := by
  cases a with
  | value p e =>
    rw [Arm.KeepsTo] at h
    exact h.occurrences level
  | block p body =>
    rw [Arm.KeepsTo] at h
    exact StmtsKeepTo.occurrences h level
  | skip p =>
    rw [Arm.occurrences]
    exact List.forall_mem_nil _

theorem ArmsKeepTo.occurrences {arms : List Arm} (h : ArmsKeepTo F arms) (level : Nat) :
    ∀ x ∈ occurrencesOfArms some level arms, ∀ f, x.2.Calls f → F f := by
  cases arms with
  | nil => exact List.forall_mem_nil _
  | cons a rest =>
    rw [ArmsKeepTo] at h
    rw [occurrencesOfArms, List.forall_mem_append]
    exact ⟨Arm.KeepsTo.occurrences h.1 level, ArmsKeepTo.occurrences h.2 level⟩

end

/-- A function that is called in statements is one of those that they keep to. -/
theorem StmtsKeepTo.of_callsIn {stmts : List Stmt} (h : StmtsKeepTo F stmts) {f : String}
    (hf : CallsIn f stmts) : F f := by
  obtain ⟨x, hx, hf⟩ := hf
  exact StmtsKeepTo.occurrences h 0 x hx f hf

mutual

theorem Stmt.KeepsTo.needs {s : Stmt} (h : s.KeepsTo F) : ∀ n ∈ s.code.needs, n.IsItem := by
  cases s with
  | need n =>
    rw [Stmt.KeepsTo] at h
    exact List.forall_mem_singleton.2 h
  | bindBlock x body =>
    rw [Stmt.KeepsTo] at h
    exact StmtsKeepTo.needs h
  | bindMatch p subject arms | matchOn subject arms =>
    rw [Stmt.KeepsTo] at h
    exact ArmsKeepTo.needs h.2
  | forIn p e body | ifHolds e body | ifLet p e body =>
    rw [Stmt.KeepsTo] at h
    exact StmtsKeepTo.needs h.2
  | fail error fields | construct success fields =>
    intro n hn
    obtain ⟨c, hc, hn⟩ := Code.mem_needsOfAll.1 hn
    obtain ⟨⟨name, value⟩, -, rfl⟩ := List.mem_map.1 hc
    cases value <;> cases hn
  | bind | bindMut | bindTyped | run | result | assign | next => exact List.forall_mem_nil _

theorem StmtsKeepTo.needs {stmts : List Stmt} (h : StmtsKeepTo F stmts) :
    ∀ n ∈ Code.needsOfAll (codeOfStmts stmts), n.IsItem := by
  cases stmts with
  | nil => exact List.forall_mem_nil _
  | cons s rest =>
    rw [StmtsKeepTo] at h
    rw [codeOfStmts, Code.needsOfAll, List.forall_mem_append]
    exact ⟨Stmt.KeepsTo.needs h.1, StmtsKeepTo.needs h.2⟩

theorem Arm.KeepsTo.needs {a : Arm} (h : a.KeepsTo F) : ∀ n ∈ a.code.needs, n.IsItem := by
  cases a with
  | value p e | skip p => exact List.forall_mem_nil _
  | block p body =>
    rw [Arm.KeepsTo] at h
    exact StmtsKeepTo.needs h

theorem ArmsKeepTo.needs {arms : List Arm} (h : ArmsKeepTo F arms) :
    ∀ n ∈ Code.needsOfAll (codeOfArms arms), n.IsItem := by
  cases arms with
  | nil => exact List.forall_mem_nil _
  | cons a rest =>
    rw [ArmsKeepTo] at h
    rw [codeOfArms, Code.needsOfAll, List.forall_mem_append]
    exact ⟨Arm.KeepsTo.needs h.1, ArmsKeepTo.needs h.2⟩

end

/-! ## Items -/

def Item.bodies : Item → List (List Stmt)
  | .impl _ _ members => members.filterMap fun
    | .function _ _ _ body => some body
    | .constant .. => none
  | .struct .. | .enum .. | .interface .. | .need _ => []

/-- The functions of the item keep to the functions. -/
def Item.KeepsTo (F : String → Prop) (x : Item) : Prop := ∀ body ∈ x.bodies, StmtsKeepTo F body

/-- The types that the item stands for or that the heads of its functions have. -/
def Item.types : Item → List Symbol
  | .struct _ _ _ fields => fields.map (·.type)
  | .enum _ _ _ variants => variants.filterMap (·.payload)
  | .interface _ _ methods => methods.flatMap (·.signature.types)
  | .impl _ _ members => members.flatMap fun
    | .function _ _ signature _ => signature.types
    | .constant .. => []
  | .need _ => []

/-- Where its functions need names only, an item needs names and its types, unless it is a need
itself. -/
theorem Item.KeepsTo.mem_needs {x : Item} (h : x.KeepsTo F) {n : Need} (hn : n ∈ x.needs) :
    n.IsItem ∨ (∃ s ∈ x.types, n = .type s) ∨ x = .need n := by
  cases x with
  | struct docs derives name fields =>
    obtain ⟨f, hf, rfl⟩ := List.mem_map.1 hn
    exact .inr (.inl ⟨f.type, List.mem_map_of_mem hf, rfl⟩)
  | enum docs derives name variants =>
    obtain ⟨v, hv, hn⟩ := List.mem_flatMap.1 hn
    obtain ⟨s, hs, rfl⟩ := Option.map_eq_some_iff.1 (Option.mem_toList.1 hn)
    exact .inr (.inl ⟨s, List.mem_filterMap.2 ⟨v, hv, hs⟩, rfl⟩)
  | interface docs name methods =>
    obtain ⟨e, he, hn⟩ := List.mem_flatMap.1 hn
    obtain ⟨s, hs, rfl⟩ := List.mem_map.1 hn
    exact .inr (.inl ⟨s, List.mem_flatMap.2 ⟨e, he, hs⟩, rfl⟩)
  | impl role type members =>
    obtain ⟨e, he, hn⟩ := List.mem_flatMap.1 hn
    cases e with
    | constant docs name type elements => cases hn
    | function docs isPublic signature body =>
      rcases List.mem_append.1 hn with hn | hn
      · obtain ⟨s, hs, rfl⟩ := List.mem_map.1 hn
        exact .inr (.inl ⟨s, List.mem_flatMap.2 ⟨_, he, hs⟩, rfl⟩)
      · have hbody : body ∈ (Item.impl role type members).bodies :=
          List.mem_filterMap.2 ⟨_, he, rfl⟩
        exact .inl (StmtsKeepTo.needs (h body hbody) n hn)
  | need n' => exact .inr (.inr (congrArg _ (List.mem_singleton.1 hn).symm))

def Module.bodies (t : Module) : List (List Stmt) := t.items.flatMap Item.bodies

end ClientGen
