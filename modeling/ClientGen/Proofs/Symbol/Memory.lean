import ClientGen.Proofs.Symbol.Paths
import ClientGen.Symbol.Provider

/-!
# What a provider remembers

Every symbol that a provider remembers is the one that the model gives to the shape, whatever calls
were made before and however they ended. While shapes are being resolved this is not enough: a
symbol taken from memory must be one that the walk from here would find too. It is, since a shape
that leads back to the path has no symbol and is never remembered.
-/

namespace ClientGen

namespace Provider

open Relation

variable {m : Model} {ns : String}

/-! ## Calls -/

/-- What a provider can be asked for. -/
inductive Call
  | shape (id : ShapeId)
  | member (owner : ShapeId) (e : Member)

/-- The answer that the model itself gives, without memory. -/
def Call.outcome (m : Model) (ns : String) : Call → Except GenerationError Symbol
  | .shape id => m.symbol ns id
  | .member owner e => m.memberSymbol ns owner e

def answer (p : Provider m ns) : Call → Reply p
  | .shape id => p.symbolFor id
  | .member owner e => p.memberSymbol owner e

/-- The provider after some calls, whatever each of them answers. -/
def after (p : Provider m ns) (calls : List Call) : Provider m ns :=
  calls.foldl (fun p call => (p.answer call).2.1) p

/-- What is remembered is the symbol of the shape. -/
def IsFaithful (p : Provider m ns) : Prop := ∀ entry ∈ p.known, m.symbol ns entry.1 = .ok entry.2

theorem isFaithful_new : (new : Provider m ns).IsFaithful := by
  intro entry hentry
  cases hentry

variable {p : Provider m ns} {id : ShapeId} {s : Shape} {symbol : Symbol}

theorem IsFaithful.known? (h : p.IsFaithful) (hknown : p.known? id = some symbol) :
    m.symbol ns id = .ok symbol := by
  obtain ⟨entry, hentry, rfl⟩ := Option.map_eq_some_iff.1 hknown
  have hid : entry.1 = id := by simpa using List.find?_some hentry
  rw [← hid]
  exact h entry (List.mem_of_find?_eq_some hentry)

/-! ## The way back from a shape -/

section

variable {q : { q : Provider m ns // q.resolving = (p.enter id).resolving }}
  {r : Except GenerationError Symbol}

@[simp] theorem finish_fst : (p.finish id q r).1 = r := by cases r <;> rfl

/-- What is remembered stays faithful if the symbol found is that of the shape. -/
theorem IsFaithful.finish (h : q.1.IsFaithful)
    (hr : ∀ symbol, r = .ok symbol → m.symbol ns id = .ok symbol) :
    (p.finish id q r).2.1.IsFaithful := by
  cases r with
  | error e => exact h
  | ok symbol =>
    intro entry hentry
    rcases List.mem_cons.1 hentry with rfl | hentry
    · exact hr symbol rfl
    · exact h entry hentry

end

/-! ## One shape -/

theorem symbolFor_known (h : p.known? id = some symbol) :
    p.symbolFor id = (.ok symbol, ⟨p, rfl⟩) := by
  rw [symbolFor, h]

theorem symbolFor_cycle (hknown : p.known? id = none) (h : id ∈ p.resolving) :
    p.symbolFor id =
      (.error (.invalidGraph .collectionCycle (p.resolving ++ [id])), ⟨p, rfl⟩) := by
  rw [symbolFor, hknown]
  dsimp only
  rw [dif_pos h]

theorem symbolFor_undefined (hknown : p.known? id = none) (h : id ∉ p.resolving)
    (hs : m.shape? id = none) : p.symbolFor id =
      p.finish id ⟨p.enter id, rfl⟩
        (.error (.unresolvedShape id (.stage "symbol resolution"))) := by
  rw [symbolFor, hknown]
  dsimp only
  rw [dif_neg h, hs]

/-- The provider answers to the shape as the walk of the model does on the path, and stays
faithful. -/
def Agrees (p : Provider m ns) (path : List ShapeId) (id : ShapeId) : Prop :=
  (p.symbolFor id).1 = m.symbolFrom ns path id ∧ (p.symbolFor id).2.1.IsFaithful

/-- Where providers that stand at a new shape agree on what its edges lead to, the way back from it
brings the answer of the model. -/
theorem exists_finish (hfaithful : p.IsFaithful) (hknown : p.known? id = none)
    (hnew : id ∉ p.resolving) (hs : m.shape? id = some s)
    (ih : ∀ e ∈ s.edges, s.isCollection = true → ∀ q : Provider m ns,
      q.resolving = p.resolving ++ [id] → q.IsFaithful → q.Agrees (p.resolving ++ [id]) e.target) :
    ∃ q, p.symbolFor id = p.finish id q (m.symbolFrom ns p.resolving id) ∧ q.1.IsFaithful := by
  rw [Model.symbolFrom_shape hnew hs, symbolFor, hknown]
  dsimp only
  rw [dif_neg hnew, hs]
  dsimp only
  unfold Shape.symbolWith
  have hinside : (p.enter id).IsFaithful := hfaithful
  cases hkind : s.kind with
  | list e | set e =>
    obtain ⟨helement, hq⟩ := ih e (by simp [Shape.edges, hkind])
      (by simp [Shape.isCollection, hkind]) (p.enter id) rfl hinside
    refine ⟨((p.enter id).symbolFor e.target).2, ?_, hq⟩
    dsimp only
    rw [helement]
  | map k v =>
    have hcollection : s.isCollection = true := by simp [Shape.isCollection, hkind]
    obtain ⟨hkey, hq⟩ := ih k (by simp [Shape.edges, hkind]) hcollection (p.enter id) rfl hinside
    dsimp only
    rw [← hkey]
    revert hq
    -- The value is looked up by a provider that has seen the key.
    rcases (p.enter id).symbolFor k.target with ⟨err | key, q⟩ <;> intro hq
    · exact ⟨q, rfl, hq⟩
    · obtain ⟨hvalue, hr⟩ := ih v (by simp [Shape.edges, hkind]) hcollection q.1 q.2 hq
      refine ⟨⟨(q.1.symbolFor v.target).2.1, (q.1.symbolFor v.target).2.2.trans q.2⟩, ?_, hr⟩
      dsimp only
      rw [hvalue]
      rfl
  | _ => exact ⟨⟨p.enter id, rfl⟩, rfl, hinside⟩

/-- A faithful provider answers as the model does to every shape that its path leads to. -/
theorem IsFaithful.agrees {path : List ShapeId} (h : p.IsFaithful) (hp : p.resolving = path)
    (hpath : ∀ x ∈ path, TransGen (CycleKind.collection.Edge m) x id) : p.Agrees path id := by
  induction path, id using Model.path_induction (m := m) generalizing p with
  | repeated path id hmem =>
    subst hp
    cases hknown : p.known? id with
    | some symbol =>
      have hsymbol := Model.symbolFrom_eq_of_symbol_ok (h.known? hknown) hpath
      rw [Model.symbolFrom_cycle hmem] at hsymbol
      cases hsymbol
    | none =>
      rw [Agrees, symbolFor_cycle hknown hmem, Model.symbolFrom_cycle hmem]
      exact ⟨rfl, h⟩
  | undefined path id hnew hs =>
    subst hp
    cases hknown : p.known? id with
    | some symbol =>
      have hsymbol := Model.symbolFrom_eq_of_symbol_ok (h.known? hknown) hpath
      rw [Model.symbolFrom_undefined hnew hs] at hsymbol
      cases hsymbol
    | none =>
      rw [Agrees, symbolFor_undefined hknown hnew hs, Model.symbolFrom_undefined hnew hs]
      exact ⟨rfl, h⟩
  | shape path id s hnew hs ih =>
    subst hp
    cases hknown : p.known? id with
    | some symbol =>
      rw [Agrees, symbolFor_known hknown]
      exact ⟨(Model.symbolFrom_eq_of_symbol_ok (h.known? hknown) hpath).symm, h⟩
    | none =>
      obtain ⟨q, hfinish, hq⟩ := exists_finish h hknown hnew hs fun e he hcollection q hqp hq => by
        refine ih e he hcollection hq hqp fun x hx => ?_
        have hedge := CycleKind.collection_edge_iff.2 ⟨s, hs, hcollection, e, he, rfl⟩
        rcases List.mem_append.1 hx with hx | hx
        · exact (hpath x hx).tail hedge
        · obtain rfl := List.mem_singleton.1 hx
          exact .single hedge
      rw [Agrees, hfinish]
      exact ⟨finish_fst, hq.finish fun symbol hsymbol => Model.symbol_eq_of_symbolFrom_ok hsymbol⟩

/-! ## Calls from outside -/

/-- A provider that is not resolving anything answers a call as the model does. -/
theorem IsFaithful.answer (h : p.IsFaithful) (hp : p.resolving = []) (call : Call) :
    (p.answer call).1 = call.outcome m ns ∧ (p.answer call).2.1.IsFaithful := by
  have hagrees : ∀ id, p.Agrees [] id := fun id => h.agrees hp fun x hx => by cases hx
  cases call with
  | shape id => exact hagrees id
  | member owner e =>
    obtain ⟨htarget, hfaithful⟩ := hagrees e.target
    change (p.memberSymbol owner e).1 = m.memberSymbol ns owner e ∧
      (p.memberSymbol owner e).2.1.IsFaithful
    rw [Model.memberSymbol, Model.symbol, ← htarget, memberSymbol]
    revert hfaithful
    rcases p.symbolFor e.target with ⟨err | target, q⟩ <;> exact fun hq => ⟨rfl, hq⟩

theorem resolving_after (p : Provider m ns) (calls : List Call) :
    (p.after calls).resolving = p.resolving := by
  induction calls generalizing p with
  | nil => rfl
  | cons call calls ih => exact (ih _).trans (p.answer call).2.2

theorem IsFaithful.after (h : p.IsFaithful) (hp : p.resolving = []) (calls : List Call) :
    (p.after calls).IsFaithful := by
  induction calls generalizing p with
  | nil => exact h
  | cons call calls ih => exact ih (h.answer hp call).2 ((p.answer call).2.2.trans hp)

/-- After any calls, the next one is answered as by a provider that has not been called yet, which
is the answer that the model gives without memory; and the provider stands on no path, before the
call and after it. -/
theorem answer_of_calls (calls : List Call) (call : Call) :
    let fresh : Provider m ns := new
    let p := fresh.after calls
    (p.answer call).1 = (fresh.answer call).1 ∧ (fresh.answer call).1 = call.outcome m ns ∧
      p.resolving = [] ∧ (p.answer call).2.1.resolving = [] := by
  intro fresh p
  have hp : p.resolving = [] := resolving_after fresh calls
  have hfresh := (isFaithful_new.answer rfl call : (fresh.answer call).1 = _ ∧ _)
  have hlater := (isFaithful_new.after rfl calls : p.IsFaithful).answer hp call
  exact ⟨hlater.1.trans hfresh.1.symm, hfresh.1, hp, (p.answer call).2.2.trans hp⟩

end Provider

end ClientGen
