import ClientGen.Proofs.Middleware.Phase
import ClientGen.Proofs.Order.Stuck

/-!
# What a contradiction reports

An entry is refused where its phase would have a closed walk of constraints. Every such walk passes
the refused entry, since the phase had none before. The error names the entries that the loop could
not take, and these are all that constraints lead to from the refused entry, whether or not they
lead back to it.
-/

namespace ClientGen

namespace Registry

open Relation

/-- A walk along the constraints comes back to the entry. -/
def OnCycle (entries : List Middleware) (step : Step) (x : Middleware) : Prop :=
  TransGen (Constrains entries step) x x

variable {r : Registry} {d : Middleware} {step : Step}

/-! ## From numbers to entries -/

theorem onCycle_get {i : Fin (r.baseOrder step).length} :
    OnCycle r.entries step ((r.baseOrder step).get i) ↔
      ∃ j, TransGen (constraints (r.baseOrder step)).Edge i j ∧
        (r.baseOrder step).get j = (r.baseOrder step).get i := by
  rw [OnCycle, TransGen.tail'_iff]
  constructor
  · rintro ⟨x, hw, he⟩
    obtain ⟨k, hik, rfl⟩ := reaches_iff.1 hw
    exact ⟨i, .tail' hik (constrains_get.1 he), rfl⟩
  · rintro ⟨j, hw, heq⟩
    obtain ⟨k, hik, hkj⟩ := TransGen.tail'_iff.1 hw
    exact ⟨_, reaches_iff.2 ⟨k, hik, rfl⟩, heq ▸ constrains_get.2 hkj⟩

theorem isBehindCycle_get (hnodup : (r.baseOrder step).Nodup)
    {i : Fin (r.baseOrder step).length} :
    IsBehindCycle (Constrains r.entries step) ((r.baseOrder step).get i) ↔
      IsBehindCycle (constraints (r.baseOrder step)).Edge i := by
  have hinjective := List.nodup_iff_injective_get.1 hnodup
  constructor
  · rintro ⟨x, hx, hxi⟩
    obtain ⟨y, hxy, -⟩ := TransGen.head'_iff.1 hx
    obtain ⟨j, rfl⟩ := List.mem_iff_get.1 (constrains_iff_baseOrder.1 hxy).1
    obtain ⟨k, hjk, hk⟩ := onCycle_get.1 hx
    obtain ⟨l, hjl, hl⟩ := reaches_iff.1 hxi
    obtain rfl := hinjective hk
    obtain rfl := hinjective hl
    exact ⟨k, hjk, hjl⟩
  · rintro ⟨j, hj, hji⟩
    exact ⟨_, onCycle_get.2 ⟨j, hj, rfl⟩, reaches_iff.2 ⟨i, hji, rfl⟩⟩

/-- Entries with closed walks are refused with the names of those behind them, in the base order. -/
theorem arrange_of_cyclic (hnodup : (r.baseOrder step).Nodup)
    (h : ¬ Acyclic (Constrains r.entries step)) :
    ∃ stuck : List Middleware, arrange (r.baseOrder step) = .error (.cycle (stuck.map (·.name))) ∧
      stuck.Sublist (r.baseOrder step) ∧
      ∀ x ∈ r.baseOrder step, x ∈ stuck ↔ IsBehindCycle (Constrains r.entries step) x := by
  have hgraph : ¬ Acyclic (constraints (r.baseOrder step)).Edge := fun hg =>
    h (acyclic_constraints.1 hg)
  rcases Graph.order_cases (constraints (r.baseOrder step)) id with
    ⟨order, -, htopological, -⟩ | ⟨numbers, herror, hstuck⟩
  · exact absurd htopological.acyclic hgraph
  refine ⟨numbers.map (r.baseOrder step).get, ?_, ?_, ?_⟩
  · simp only [arrange, herror, namesAt, List.map_map]
    rfl
  · have hall : (List.finRange (r.baseOrder step).length).map (r.baseOrder step).get =
        r.baseOrder step := by
      apply List.ext_getElem <;> simp
    have hsublist := hstuck.ascending.map (r.baseOrder step).get
    rwa [hall] at hsublist
  · intro x hx
    obtain ⟨i, rfl⟩ := List.mem_iff_get.1 hx
    rw [isBehindCycle_get hnodup, ← hstuck.mem_iff, List.mem_map]
    constructor
    · rintro ⟨j, hj, heq⟩
      exact List.nodup_iff_injective_get.1 hnodup heq ▸ hj
    · exact fun hi => ⟨i, hi, rfl⟩

/-! ## The refused entry -/

/-- What was registered has no closed walk, so each closed walk passes the entry that is new. -/
theorem Coherent.passes_new (h : r.Coherent) {x : Middleware}
    (hx : OnCycle (r.entries ++ [d]) step x) :
    ReflTransGen (Constrains (r.entries ++ [d]) step) x d ∧
      ReflTransGen (Constrains (r.entries ++ [d]) step) d x :=
  (h.acyclic step).passes (fun _ _ ha hb he => he.of_concat ha hb) hx

theorem Coherent.onCycle_new (h : r.Coherent) {x : Middleware}
    (hx : OnCycle (r.entries ++ [d]) step x) : OnCycle (r.entries ++ [d]) step d := by
  obtain ⟨hxd, hdx⟩ := h.passes_new hx
  have hdx' : TransGen (Constrains (r.entries ++ [d]) step) d x := .trans_right hdx hx
  exact hdx'.trans_left hxd

/-- What is behind a closed walk is what the new entry leads to. -/
theorem Coherent.isBehindCycle_iff (h : r.Coherent)
    (hd : OnCycle (r.entries ++ [d]) step d) (x : Middleware) :
    IsBehindCycle (Constrains (r.entries ++ [d]) step) x ↔
      TransGen (Constrains (r.entries ++ [d]) step) d x := by
  constructor
  · rintro ⟨y, hy, hyx⟩
    exact hd.trans_left ((h.passes_new hy).2.trans hyx)
  · exact fun hdx => ⟨d, hd, hdx.to_reflTransGen⟩

theorem Coherent.onCycle_iff (h : r.Coherent) {x : Middleware}
    (hdx : TransGen (Constrains (r.entries ++ [d]) step) d x) :
    OnCycle (r.entries ++ [d]) step x ↔ TransGen (Constrains (r.entries ++ [d]) step) x d := by
  constructor
  · intro hx
    exact hx.trans_left (h.passes_new hx).1
  · exact fun hxd => hxd.trans hdx

/-- An entry that would close a cycle is refused, and the registry stays as it was. The names
reported are those of the entries that the new one leads to, in base order, the cycle itself among
them. -/
theorem Coherent.submit_contradictory (h : r.Coherent)
    (hnew : ∀ x ∈ r.entries, x.name ≠ d.name)
    (hcyclic : ¬ Acyclic (Constrains (r.entries ++ [d]) d.step)) :
    OnCycle (r.entries ++ [d]) d.step d ∧
    ∃ stuck : List Middleware,
      r.submit d = (.error (.contradictoryOrder d.name d.step (stuck.map (·.name))), r) ∧
      stuck.Sublist (({ r with entries := r.entries ++ [d] } : Registry).baseOrder d.step) ∧
      ∀ x, x ∈ stuck ↔ TransGen (Constrains (r.entries ++ [d]) d.step) d x := by
  let more : Registry := { r with entries := r.entries ++ [d] }
  have hentries : more.entries.Nodup := (h.names_concat hnew).of_map _
  have hnodup : (more.baseOrder d.step).Nodup :=
    (baseOrder_perm more d.step).nodup_iff.2 (hentries.filter _)
  have hd : OnCycle (r.entries ++ [d]) d.step d := by
    obtain ⟨x, hx⟩ := not_forall_not.1 hcyclic
    exact h.onCycle_new hx
  obtain ⟨stuck, harrange, hsublist, hstuck⟩ := arrange_of_cyclic (r := more) hnodup hcyclic
  refine ⟨hd, stuck, ?_, hsublist, fun x => ?_⟩
  · rw [submit_new hnew, harrange]
    rfl
  · rw [← h.isBehindCycle_iff hd x]
    constructor
    · exact fun hx => (hstuck x (hsublist.subset hx)).1 hx
    · intro hx
      have hmem : x ∈ more.baseOrder d.step := by
        obtain ⟨y, hyx, -⟩ := hx.exists_predecessor
        exact (constrains_iff_baseOrder (r := more).1 hyx).2.1
      exact (hstuck x hmem).2 hx

/-! ## After any calls -/

/-- After any calls, an entry that is refused as contradictory lies on a closed walk, and the error
has the names of the entries that constraints lead to from it, each once and in the base order. So
every name is that of an entry on a closed walk exactly if all that the refused entry leads to leads
back to it. -/
theorem mem_cycle_iff_of_calls {stack : String} {ds : List Middleware} {d : Middleware}
    {name : String} {step : Step} {cycle : List String}
    (h : (((new stack).submitAll ds).submit d).1 =
      .error (.contradictoryOrder name step cycle)) :
    let r := (new stack).submitAll ds
    let more : Registry := { r with entries := r.entries ++ [d] }
    (name = d.name ∧ step = d.step ∧ OnCycle more.entries step d) ∧
    cycle.Sublist ((more.baseOrder step).map (·.name)) ∧
    (∀ x ∈ more.entries, x.step = step →
      (x.name ∈ cycle ↔ TransGen (Constrains more.entries step) d x)) ∧
    ((∀ n ∈ cycle, ∃ x ∈ more.entries, x.step = step ∧ x.name = n ∧
        OnCycle more.entries step x) ↔
      ∀ x, TransGen (Constrains more.entries step) d x →
        TransGen (Constrains more.entries step) x d) := by
  intro r more
  have hcoherent : r.Coherent := coherent_submitAll stack ds
  rcases submit_cases r d with ⟨-, -, hsubmit⟩ | ⟨-, hsubmit⟩ | ⟨hnew, hcyclic, -⟩
  · rw [hsubmit] at h
    cases h
  · rw [hsubmit] at h
    cases h
  obtain ⟨hd, stuck, hsubmit, hsublist, hstuck⟩ := hcoherent.submit_contradictory hnew hcyclic
  rw [hsubmit] at h
  obtain ⟨rfl, rfl, rfl⟩ : d.name = name ∧ d.step = step ∧ stuck.map (·.name) = cycle := by
    simpa using h
  have hnames : (more.entries.map (·.name)).Nodup := hcoherent.names_concat hnew
  have hstuckMem : ∀ x ∈ stuck, x ∈ more.entries ∧ x.step = d.step := fun x hx =>
    mem_baseOrder.1 (hsublist.subset hx)
  have hname : ∀ x ∈ more.entries, x.name ∈ stuck.map (·.name) ↔ x ∈ stuck := by
    intro x hx
    constructor
    · intro hmem
      obtain ⟨y, hy, hxy⟩ := List.mem_map.1 hmem
      exact List.inj_on_of_nodup_map hnames (hstuckMem y hy).1 hx hxy ▸ hy
    · exact fun hmem => List.mem_map.2 ⟨x, hmem, rfl⟩
  refine ⟨⟨rfl, rfl, hd⟩, hsublist.map _, fun x hx _ => (hname x hx).trans (hstuck x), ?_, ?_⟩
  · intro hall x hdx
    have hx : x ∈ stuck := (hstuck x).2 hdx
    obtain ⟨y, hy, -, hxy, hcycle⟩ := hall x.name (List.mem_map.2 ⟨x, hx, rfl⟩)
    obtain rfl := List.inj_on_of_nodup_map hnames hy (hstuckMem x hx).1 hxy
    exact (hcoherent.onCycle_iff hdx).1 hcycle
  · intro hback n hn
    obtain ⟨x, hx, rfl⟩ := List.mem_map.1 hn
    have hdx := (hstuck x).1 hx
    exact ⟨x, (hstuckMem x hx).1, (hstuckMem x hx).2, rfl,
      (hcoherent.onCycle_iff hdx).2 (hback x hdx)⟩

/-- Two entries that each want to come before the other one are both named. -/
theorem mem_cycle_iff_rivals :
    let first : Middleware := ⟨"A", .build, .before "B", "A::new()"⟩
    let second : Middleware := ⟨"B", .build, .before "A", "B::new()"⟩
    (((new "things").submitAll [first]).submit second).1 =
        .error (.contradictoryOrder "B" .build ["A", "B"]) ∧
      TransGen (Constrains [first, second] .build) second first := by
  intro first second
  have h : (((new "things").submitAll [first]).submit second).1 =
      .error (.contradictoryOrder "B" .build ["A", "B"]) := by
    decide +kernel
  have hentries : ((new "things").submitAll [first]).entries ++ [second] = [first, second] := by
    decide +kernel
  obtain ⟨-, -, hmem, -⟩ := mem_cycle_iff_of_calls h
  rw [hentries] at hmem
  exact ⟨h, (hmem first (by simp) rfl).1 (by simp [first])⟩

/-- An entry that only comes after one of the rivals is named with them, though no walk along the
constraints comes back to it. -/
theorem not_onCycle_follower :
    let first : Middleware := ⟨"A", .build, .before "B", "A::new()"⟩
    let follower : Middleware := ⟨"C", .build, .after "A", "C::new()"⟩
    let second : Middleware := ⟨"B", .build, .before "A", "B::new()"⟩
    (((new "things").submitAll [first, follower]).submit second).1 =
        .error (.contradictoryOrder "B" .build ["A", "C", "B"]) ∧
      ((new "things").submitAll [first, follower]).entries ++ [second] =
        [first, follower, second] ∧
      ¬ ∃ x ∈ [first, follower, second], x.step = .build ∧ x.name = "C" ∧
        OnCycle [first, follower, second] .build x := by
  intro first follower second
  refine ⟨by decide +kernel, by decide +kernel, ?_⟩
  rintro ⟨x, hx, -, hname, hcycle⟩
  obtain ⟨y, he, -⟩ := TransGen.head'_iff.1 hcycle
  obtain ⟨-, ⟨hy, -⟩, hprecedes⟩ := constrains_iff.1 he
  obtain rfl : x = follower := by
    have honly : ∀ z ∈ [first, follower, second], z.name = "C" → z = follower := by decide
    exact honly x hx hname
  -- Nothing names the follower as its peer, and the follower wants to come after another entry.
  have hnone : ∀ z ∈ [first, follower, second], precedes follower z = false := by decide
  rw [hnone y hy] at hprecedes
  cases hprecedes

end Registry

end ClientGen
