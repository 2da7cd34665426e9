import ClientGen.Proofs.Middleware.Constraints

/-!
# What registering accepts

A call accepts an entry whose name is new and with which the constraints of its phase have no closed
walk, whatever was registered before. Any other call is an error and changes nothing. So names stay
unique and every phase can be arranged, after any calls in any order.
-/

namespace ClientGen

namespace Registry

open Relation

/-- The registry after some calls, whatever each of them answers. -/
def submitAll (r : Registry) (ds : List Middleware) : Registry :=
  ds.foldl (fun r d => (r.submit d).2) r

/-- Names are unique, and no phase has a closed walk of constraints. -/
structure Coherent (r : Registry) : Prop where
  names : (r.entries.map (·.name)).Nodup
  acyclic : ∀ step, Acyclic (Constrains r.entries step)

variable {r : Registry} {d : Middleware} {step : Step}

/-! ## One call -/

theorem arrangeStep_lenient : r.arrangeStep step false = arrange (r.baseOrder step) := rfl

theorem submit_taken (h : ∃ x ∈ r.entries, x.name = d.name) :
    r.submit d = (.error (.duplicateMiddleware d.name r.stack), r) := by
  have htaken : r.entries.any (·.name == d.name) = true := by simpa using h
  rw [submit, if_pos htaken]

/-- An entry with a new name is judged by its phase, and taken away again if that has no order. -/
theorem submit_new (hnew : ∀ x ∈ r.entries, x.name ≠ d.name) :
    r.submit d =
      match arrange (({ r with entries := r.entries ++ [d] } : Registry).baseOrder d.step) with
      | .error fault => (.error (orderError d.step (fun _ => d.name) fault), r)
      | .ok _ => (.ok (), { r with entries := r.entries ++ [d] }) := by
  have htaken : ¬ r.entries.any (·.name == d.name) = true := by simpa using hnew
  rw [submit, if_neg htaken]
  cases harrange : arrange (({ r with entries := r.entries ++ [d] } : Registry).baseOrder d.step) with
  | error fault => simp [arrangeStep_lenient, harrange]
  | ok order => simp [arrangeStep_lenient, harrange]

theorem submit_acyclic (hnew : ∀ x ∈ r.entries, x.name ≠ d.name)
    (h : Acyclic (Constrains (r.entries ++ [d]) d.step)) :
    r.submit d = (.ok (), { r with entries := r.entries ++ [d] }) := by
  let more : Registry := { r with entries := r.entries ++ [d] }
  have hmore : Acyclic (constraints (more.baseOrder d.step)).Edge := acyclic_constraints.2 h
  obtain ⟨order, -, harrange, -⟩ := arrange_of_acyclic hmore
  rw [submit_new hnew, harrange]

theorem submit_cyclic (hnew : ∀ x ∈ r.entries, x.name ≠ d.name)
    (h : ¬ Acyclic (Constrains (r.entries ++ [d]) d.step)) :
    ∃ cycle, r.submit d = (.error (.contradictoryOrder d.name d.step cycle), r) := by
  let more : Registry := { r with entries := r.entries ++ [d] }
  have hmore : ¬ Acyclic (constraints (more.baseOrder d.step)).Edge := fun hg =>
    h (acyclic_constraints.1 hg)
  obtain ⟨names, harrange⟩ := arrange_of_not_acyclic hmore
  refine ⟨names, ?_⟩
  rw [submit_new hnew, harrange]
  rfl

/-- What a call can do: it accepts the entry, or it leaves the registry as it was. -/
theorem submit_cases (r : Registry) (d : Middleware) :
    ((∀ x ∈ r.entries, x.name ≠ d.name) ∧ Acyclic (Constrains (r.entries ++ [d]) d.step) ∧
      r.submit d = (.ok (), { r with entries := r.entries ++ [d] })) ∨
    ((∃ x ∈ r.entries, x.name = d.name) ∧
      r.submit d = (.error (.duplicateMiddleware d.name r.stack), r)) ∨
    ((∀ x ∈ r.entries, x.name ≠ d.name) ∧ ¬ Acyclic (Constrains (r.entries ++ [d]) d.step) ∧
      ∃ cycle, r.submit d = (.error (.contradictoryOrder d.name d.step cycle), r)) := by
  by_cases htaken : ∃ x ∈ r.entries, x.name = d.name
  · exact .inr (.inl ⟨htaken, submit_taken htaken⟩)
  · have hnew : ∀ x ∈ r.entries, x.name ≠ d.name := fun x hx hname => htaken ⟨x, hx, hname⟩
    by_cases hg : Acyclic (Constrains (r.entries ++ [d]) d.step)
    · exact .inl ⟨hnew, hg, submit_acyclic hnew hg⟩
    · exact .inr (.inr ⟨hnew, hg, submit_cyclic hnew hg⟩)

theorem submit_ok_iff : (r.submit d).1 = .ok () ↔
    (∀ x ∈ r.entries, x.name ≠ d.name) ∧ Acyclic (Constrains (r.entries ++ [d]) d.step) := by
  constructor
  · intro hok
    rcases submit_cases r d with ⟨hnew, hg, -⟩ | ⟨-, hsubmit⟩ | ⟨-, -, cycle, hsubmit⟩
    · exact ⟨hnew, hg⟩
    · rw [hsubmit] at hok
      cases hok
    · rw [hsubmit] at hok
      cases hok
  · rintro ⟨hnew, hg⟩
    rw [submit_acyclic hnew hg]

/-- A call adds the entry or changes nothing. -/
theorem submit_adds_or_fails (r : Registry) (d : Middleware) :
    r.submit d = (.ok (), { r with entries := r.entries ++ [d] }) ∨
      ∃ e, r.submit d = (.error e, r) := by
  rcases submit_cases r d with ⟨-, -, hsubmit⟩ | ⟨-, hsubmit⟩ | ⟨-, -, cycle, hsubmit⟩
  · exact .inl hsubmit
  · exact .inr ⟨_, hsubmit⟩
  · exact .inr ⟨_, hsubmit⟩

/-! ## Any calls -/

theorem coherent_new (stack : String) : (new stack).Coherent where
  names := List.nodup_nil
  acyclic := by
    intro step x hw
    obtain ⟨y, hxy, -⟩ := TransGen.head'_iff.1 hw
    have hx := (constrains_iff.1 hxy).1.1
    simp [new] at hx

theorem Coherent.names_concat (h : r.Coherent) (hnew : ∀ x ∈ r.entries, x.name ≠ d.name) :
    ((r.entries ++ [d]).map (·.name)).Nodup := by
  rw [List.map_append, List.nodup_append]
  refine ⟨h.names, List.nodup_singleton _, ?_⟩
  intro name hname other hother
  obtain ⟨x, hx, rfl⟩ := List.mem_map.1 hname
  obtain rfl : other = d.name := by simpa using hother
  exact hnew x hx

/-- No submission makes a registry incoherent, whether it is accepted or refused. -/
theorem Coherent.submit (h : r.Coherent) (d : Middleware) : (r.submit d).2.Coherent := by
  rcases submit_cases r d with ⟨hnew, hg, hsubmit⟩ | ⟨-, hsubmit⟩ | ⟨-, -, cycle, hsubmit⟩
  · rw [hsubmit]
    constructor
    · exact h.names_concat hnew
    · intro step
      by_cases hstep : step = d.step
      · rw [hstep]
        exact hg
      · -- An entry of another phase is no part of the constraints of this one.
        refine (h.acyclic step).of_map id fun x y he => he.of_concat ?_ ?_
        · rintro rfl
          exact hstep (constrains_iff.1 he).1.2.symm
        · rintro rfl
          exact hstep (constrains_iff.1 he).2.1.2.symm
  · rw [hsubmit]
    exact h
  · rw [hsubmit]
    exact h

theorem Coherent.submitAll (h : r.Coherent) (ds : List Middleware) : (r.submitAll ds).Coherent := by
  induction ds generalizing r with
  | nil => exact h
  | cons d ds ih => exact ih (h.submit d)

/-- A registry to which entries have only been submitted. -/
theorem coherent_submitAll (stack : String) (ds : List Middleware) :
    ((new stack).submitAll ds).Coherent :=
  (coherent_new stack).submitAll ds

theorem stack_submit (r : Registry) (d : Middleware) : (r.submit d).2.stack = r.stack := by
  rcases submit_adds_or_fails r d with hsubmit | ⟨e, hsubmit⟩ <;> rw [hsubmit]

theorem stack_submitAll (r : Registry) (ds : List Middleware) :
    (r.submitAll ds).stack = r.stack := by
  induction ds generalizing r with
  | nil => rfl
  | cons d ds ih =>
    change ((r.submit d).2.submitAll ds).stack = r.stack
    rw [ih, stack_submit]

/-- After any calls, the next one accepts an entry exactly if no entry of any phase has its name and
the constraints of its phase with the entry have no closed walk. A taken name is what is reported
first, a call that fails changes nothing, and the registry has unique names and no closed walk. -/
theorem submit_ok_iff_of_calls (stack : String) (ds : List Middleware) (d : Middleware) :
    let r := (new stack).submitAll ds
    ((r.submit d).1 = .ok () ↔
      (∀ x ∈ r.entries, x.name ≠ d.name) ∧ Acyclic (Constrains (r.entries ++ [d]) d.step)) ∧
    ((∃ x ∈ r.entries, x.name = d.name) →
      (r.submit d).1 = .error (.duplicateMiddleware d.name stack)) ∧
    ((∀ x ∈ r.entries, x.name ≠ d.name) → ¬ Acyclic (Constrains (r.entries ++ [d]) d.step) →
      ∃ cycle, (r.submit d).1 = .error (.contradictoryOrder d.name d.step cycle)) ∧
    ((r.submit d).1 = .ok () → (r.submit d).2 = { r with entries := r.entries ++ [d] }) ∧
    (∀ e, (r.submit d).1 = .error e → (r.submit d).2 = r) ∧
    (r.entries.map (·.name)).Nodup ∧ ∀ step, Acyclic (Constrains r.entries step) := by
  intro r
  have hcoherent : r.Coherent := coherent_submitAll stack ds
  have hstack : r.stack = stack := stack_submitAll (new stack) ds
  refine ⟨submit_ok_iff, fun htaken => ?_, fun hnew hg => ?_, fun hok => ?_, fun e herror => ?_,
    hcoherent.names, hcoherent.acyclic⟩
  · rw [submit_taken htaken, hstack]
  · obtain ⟨cycle, hsubmit⟩ := submit_cyclic hnew hg
    exact ⟨cycle, by rw [hsubmit]⟩
  · rcases submit_adds_or_fails r d with hsubmit | ⟨e, hsubmit⟩
    · rw [hsubmit]
    · rw [hsubmit] at hok
      cases hok
  · rcases submit_adds_or_fails r d with hsubmit | ⟨e', hsubmit⟩
    · rw [hsubmit] at herror
      cases herror
    · rw [hsubmit]

end Registry

end ClientGen
