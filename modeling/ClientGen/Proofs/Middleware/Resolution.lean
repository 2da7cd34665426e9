import ClientGen.Code.Writer
import ClientGen.Proofs.Middleware.Phase
import ClientGen.Proofs.Results
import Mathlib.Tactic.Choose

/-!
# The order of a stack

A stack is ordered phase by phase. This fails only where an entry names a peer that its phase does
not have, and then names the first such entry; cycles cannot come up any more, since registering has
kept them out.
-/

namespace ClientGen

/-- The place of a phase among all phases. -/
def Step.rank (s : Step) : Nat := Step.all.idxOf s

theorem Step.mem_all (s : Step) : s ∈ Step.all := by cases s <;> decide

/-- Each phase stands between other phases. -/
theorem Step.exists_around (s : Step) :
    ∃ first last, Step.all = first ++ s :: last ∧ s ∉ first ∧ s ∉ last := by
  obtain ⟨first, last, hall⟩ := List.append_of_mem s.mem_all
  have hnodup : (first ++ s :: last).Nodup := hall ▸ (by decide)
  have hout : s ∉ first ++ last := (List.nodup_cons.1 (List.nodup_middle.1 hnodup)).1
  simp only [List.mem_append, not_or] at hout
  exact ⟨first, last, hall, hout⟩

namespace Registry

variable {r : Registry} {step : Step} {x y : Middleware}

/-! ## Peers -/

/-- The entry names a peer that its phase does not have. -/
structure Dangles (entries : List Middleware) (x : Middleware) (peer : String) : Prop where
  mem : x ∈ entries
  names : x.position = .before peer ∨ x.position = .after peer
  missing : ∀ y ∈ entries, y.step = x.step → y.name ≠ peer

/-- Of the entries that name a missing peer it is the first: no other one is of an earlier phase, or
of its phase and registered before. -/
def IsFirstDangling (entries : List Middleware) (x : Middleware) (peer : String) : Prop :=
  Dangles entries x peer ∧ (∀ y q, Dangles entries y q → x.step.rank ≤ y.step.rank) ∧
    ∃ before after, entries = before ++ x :: after ∧
      ∀ y ∈ before, y.step = x.step → ∀ q, ¬ Dangles entries y q

/-- No entry dangles exactly if each peer is in the phase of the entry that names it. -/
theorem forall_not_dangles {entries : List Middleware} :
    (∀ x peer, ¬ Dangles entries x peer) ↔
      ∀ x ∈ entries, ∀ peer, x.position = .before peer ∨ x.position = .after peer →
        ∃ p ∈ entries, p.step = x.step ∧ p.name = peer := by
  constructor
  · intro hpeers x hx peer hnames
    by_contra hmissing
    exact hpeers x peer ⟨hx, hnames, fun p hp hps hname => hmissing ⟨p, hp, hps, hname⟩⟩
  · rintro hpeers x peer ⟨hx, hnames, hmissing⟩
    obtain ⟨p, hp, hps, hname⟩ := hpeers x hx peer hnames
    exact hmissing p hp hps hname

theorem peer?_eq_some {peer : String} :
    peer? x = some peer ↔ x.position = .before peer ∨ x.position = .after peer := by
  cases h : x.position <;> simp [peer?, h]

/-- An entry is found to dangle exactly if it does, with the peer that is missing. -/
theorem danglingPeer?_eq_some (hx : x ∈ r.entries) {name peer : String} :
    danglingPeer? (r.baseOrder x.step) x = some (name, peer) ↔
      name = x.name ∧ Dangles r.entries x peer := by
  unfold danglingPeer?
  cases hpeer : peer? x with
  | none =>
    simp only [reduceCtorEq, false_iff, not_and]
    rintro - ⟨-, hnames, -⟩
    rw [peer?_eq_some.2 hnames] at hpeer
    cases hpeer
  | some q =>
    have hany : (r.baseOrder x.step).any (·.name == q) = true ↔
        ∃ y ∈ r.entries, y.step = x.step ∧ y.name = q := by
      simp [and_assoc]
    by_cases hq : (r.baseOrder x.step).any (·.name == q) = true
    · obtain ⟨y, hy, hys, hname⟩ := hany.1 hq
      simp only [hq, ↓reduceIte, reduceCtorEq, false_iff, not_and]
      rintro - ⟨-, hnames, hmissing⟩
      rw [peer?_eq_some.2 hnames] at hpeer
      obtain rfl := Option.some.inj hpeer
      exact hmissing y hy hys hname
    · simp only [hq, Bool.false_eq_true, ↓reduceIte, Option.some.injEq, Prod.mk.injEq]
      constructor
      · rintro ⟨rfl, rfl⟩
        exact ⟨rfl, hx, peer?_eq_some.1 hpeer, fun y hy hys hname => hq (hany.2 ⟨y, hy, hys, hname⟩)⟩
      · rintro ⟨rfl, -, hnames, -⟩
        rw [peer?_eq_some.2 hnames] at hpeer
        exact ⟨rfl, (Option.some.inj hpeer).symm⟩

theorem danglingPeer?_eq_none (hx : x ∈ r.entries) :
    danglingPeer? (r.baseOrder x.step) x = none ↔ ∀ peer, ¬ Dangles r.entries x peer := by
  rw [Option.eq_none_iff_forall_ne_some]
  constructor
  · intro h peer hdangles
    exact h (x.name, peer) ((danglingPeer?_eq_some hx).2 ⟨rfl, hdangles⟩)
  · rintro h ⟨name, peer⟩ hsome
    exact h peer ((danglingPeer?_eq_some hx).1 hsome).2

/-- Heads name no peer, so that the base order and the order of registration show the same first
missing one. -/
theorem unknownPeer?_baseOrder (r : Registry) (step : Step) :
    unknownPeer? (r.baseOrder step) =
      (r.entries.filter (·.step = step)).findSome? (danglingPeer? (r.baseOrder step)) := by
  have hhead : ∀ x : Middleware, x.position = .head →
      danglingPeer? (r.baseOrder step) x = none := by
    intro x hx
    simp [danglingPeer?, peer?, hx]
  rw [unknownPeer?]
  generalize danglingPeer? (r.baseOrder step) = f at hhead
  have hheads : ((r.entries.filter (·.step = step)).filter (·.position = .head)).findSome? f =
      none := by
    rw [List.findSome?_eq_none_iff]
    intro x hx
    exact hhead x (by simpa using (List.mem_filter.1 hx).2)
  rw [baseOrder, List.findSome?_append, hheads, Option.none_or]
  induction r.entries.filter (·.step = step) with
  | nil => rfl
  | cons x l ih =>
    by_cases hx : x.position = .head
    · rw [List.filter_cons_of_neg (by simp [hx]), ih, List.findSome?_cons, hhead x hx]
    · rw [List.filter_cons_of_pos (by simp [hx]), List.findSome?_cons, List.findSome?_cons, ih]

/-- A phase has no unknown peer exactly if none of its entries dangles. -/
theorem unknownPeer?_eq_none : unknownPeer? (r.baseOrder step) = none ↔
    ∀ x ∈ r.entries, x.step = step → ∀ peer, ¬ Dangles r.entries x peer := by
  rw [unknownPeer?_baseOrder, List.findSome?_eq_none_iff]
  constructor
  · rintro h x hx rfl
    exact (danglingPeer?_eq_none hx).1 (h x (by simp [hx]))
  · intro h x hfilter
    obtain ⟨hx, rfl⟩ : x ∈ r.entries ∧ x.step = step := by simpa using hfilter
    exact (danglingPeer?_eq_none hx).2 (h x hx rfl)

/-- The unknown peer of a phase is that of its first dangling entry. -/
theorem unknownPeer?_eq_some {name peer : String}
    (h : unknownPeer? (r.baseOrder step) = some (name, peer)) :
    ∃ before x after, r.entries = before ++ x :: after ∧ x.step = step ∧ name = x.name ∧
      Dangles r.entries x peer ∧ ∀ y ∈ before, y.step = step → ∀ q, ¬ Dangles r.entries y q := by
  rw [unknownPeer?_baseOrder, List.findSome?_eq_some_iff] at h
  obtain ⟨front, x, back, hsplit, hx, hfront⟩ := h
  obtain ⟨before, rest, hentries, rfl, hrest⟩ := List.filter_eq_append_iff.1 hsplit
  obtain ⟨between, after, rfl, hbetween, hxs, rfl⟩ := List.filter_eq_cons_iff.1 hrest
  have hmem : x ∈ r.entries := by simp [hentries]
  obtain rfl : x.step = step := by simpa using hxs
  obtain ⟨rfl, hdangles⟩ := (danglingPeer?_eq_some hmem).1 hx
  refine ⟨before ++ between, x, after, by simp [hentries], rfl, rfl, hdangles, ?_⟩
  intro y hy hys
  have hyr : y ∈ r.entries := by
    rw [hentries]
    simp only [List.mem_append] at hy ⊢
    tauto
  rcases List.mem_append.1 hy with hy | hy
  · refine (danglingPeer?_eq_none hyr).1 ?_
    rw [hys]
    exact hfront y (by simp [hy, hys])
  · exact absurd hys (by simpa using hbetween y hy)

/-! ## The whole stack -/

theorem arrangeStep_strict {l : List Middleware} (hpeer : unknownPeer? (r.baseOrder step) = none)
    (h : arrange (r.baseOrder step) = .ok l) : r.arrangeStep step true = .ok l := by
  simp only [arrangeStep, ↓reduceIte, hpeer, h]

theorem arrangeStep_unknown {name peer : String}
    (h : unknownPeer? (r.baseOrder step) = some (name, peer)) :
    r.arrangeStep step true = .error (.unknownPeer name peer) := by
  simp only [arrangeStep, ↓reduceIte, h]

/-- A phase of a coherent registry whose peers are known is put into its greedy order. -/
theorem Coherent.arrangeStep (h : r.Coherent)
    (hpeer : unknownPeer? (r.baseOrder step) = none) :
    ∃ l, r.arrangeStep step true = .ok l ∧ r.IsGreedyOrder step l := by
  obtain ⟨l, harrange, hgreedy⟩ := h.arrange step
  exact ⟨l, arrangeStep_strict hpeer harrange, hgreedy⟩

/-- Without dangling entries the stack is the greedy orders of its phases, one after the other. -/
theorem Coherent.resolve_ok (h : r.Coherent) (hpeers : ∀ x peer, ¬ Dangles r.entries x peer) :
    ∃ part : Step → List Middleware, (∀ step, r.IsGreedyOrder step (part step)) ∧
      r.resolve = .ok (Step.all.flatMap part) := by
  have hpart : ∀ step, ∃ l, r.arrangeStep step true = .ok l ∧ r.IsGreedyOrder step l := fun step =>
    h.arrangeStep (unknownPeer?_eq_none.2 fun x _ _ => hpeers x)
  choose part harrange hgreedy using hpart
  refine ⟨part, hgreedy, ?_⟩
  have hsteps : Step.all.mapM (fun step =>
      (r.arrangeStep step true).mapError (orderError step (·.headD ""))) =
        .ok (Step.all.map part) :=
    mapM_eq_ok fun step _ => by rw [harrange]; rfl
  rw [resolve, hsteps]
  rfl

/-- With dangling entries the stack has no order, and the first of them is reported. -/
theorem Coherent.resolve_error (h : r.Coherent) (hdangles : ∃ x peer, Dangles r.entries x peer) :
    ∃ x peer, IsFirstDangling r.entries x peer ∧
      r.resolve = .error (.unknownPeer x.name peer x.step) := by
  obtain ⟨z, q, hz⟩ := hdangles
  have hsome : (unknownPeer? (r.baseOrder z.step)).isSome = true := by
    rw [Option.isSome_iff_ne_none]
    exact fun hnone => unknownPeer?_eq_none.1 hnone z hz.mem rfl q hz
  -- The first phase with a dangling entry decides the error.
  obtain ⟨step, hstep⟩ : ∃ step, Step.all.find?
      (fun step => (unknownPeer? (r.baseOrder step)).isSome) = some step :=
    Option.isSome_iff_exists.1 (List.find?_isSome.2 ⟨z.step, z.step.mem_all, hsome⟩)
  obtain ⟨hunknown, earlier, later, hall, hearlier⟩ := List.find?_eq_some_iff_append.1 hstep
  have hknown : ∀ s ∈ earlier, unknownPeer? (r.baseOrder s) = none := fun s hs => by
    simpa using hearlier s hs
  obtain ⟨⟨name, peer⟩, hpeer⟩ := Option.isSome_iff_exists.1 hunknown
  obtain ⟨before, x, after, hentries, rfl, rfl, hx, hbefore⟩ := unknownPeer?_eq_some hpeer
  refine ⟨x, peer, ⟨hx, fun y q hy => ?_, before, after, hentries, hbefore⟩, ?_⟩
  · have hs : x.step ∉ earlier := by
      intro hmem
      rw [hknown _ hmem] at hpeer
      cases hpeer
    have hy' : y.step ∉ earlier := fun hmem =>
      unknownPeer?_eq_none.1 (hknown _ hmem) y hy.mem rfl q hy
    rw [Step.rank, Step.rank, hall, List.idxOf_append_of_notMem hs, List.idxOf_append_of_notMem hy',
      List.idxOf_cons_self]
    omega
  · have hpart : ∀ s, ∃ l, s ∈ earlier → r.arrangeStep s true = .ok l := by
      intro s
      by_cases hs : s ∈ earlier
      · obtain ⟨l, hl, -⟩ := h.arrangeStep (hknown s hs)
        exact ⟨l, fun _ => hl⟩
      · exact ⟨[], fun hmem => absurd hmem hs⟩
    choose part harrange using hpart
    have hsteps : Step.all.mapM (fun step =>
        (r.arrangeStep step true).mapError (orderError step (·.headD ""))) =
          .error (.unknownPeer x.name peer x.step) := by
      rw [hall]
      refine mapM_eq_error (g := part) (fun s hs => ?_) ?_
      · rw [harrange s hs]
        rfl
      · rw [arrangeStep_unknown hpeer]
        rfl
    rw [resolve, hsteps]
    rfl

/-! ## What the order of a stack looks like -/

/-- Phases in which each entry stands in the greedy order of its phase. -/
structure IsStackOrder (r : Registry) (order : List Middleware) : Prop where
  perm : order.Perm r.entries
  phases : order.Pairwise fun x y => x.step.rank ≤ y.step.rank
  greedy : ∀ step, r.IsGreedyOrder step (order.filter (·.step = step))

theorem IsGreedyOrder.mem {l : List Middleware} (h : r.IsGreedyOrder step l) :
    x ∈ l ↔ x ∈ r.entries ∧ x.step = step :=
  h.perm.mem_iff.trans mem_baseOrder

/-- Where each phase is in its greedy order, the phases in sequence are the order of the stack. -/
theorem Coherent.isStackOrder (h : r.Coherent) {part : Step → List Middleware}
    (hpart : ∀ step, r.IsGreedyOrder step (part step)) :
    r.IsStackOrder (Step.all.flatMap part) := by
  have hnodup : ∀ step, (part step).Nodup := fun step =>
    (hpart step).perm.nodup_iff.2 (h.nodup_baseOrder step)
  have hother : ∀ s t x, x ∈ part s → x ∈ part t → s = t := fun s t x hs ht =>
    ((hpart s).mem.1 hs).2.symm.trans ((hpart t).mem.1 ht).2
  constructor
  · have hall : (Step.all.flatMap part).Nodup := by
      rw [List.nodup_flatMap]
      refine ⟨fun s _ => hnodup s, ?_⟩
      have hsteps : Step.all.Nodup := by decide
      exact hsteps.imp fun hst x hs ht => hst (hother _ _ x hs ht)
    rw [List.perm_ext_iff_of_nodup hall h.nodup_entries]
    intro x
    rw [List.mem_flatMap]
    constructor
    · rintro ⟨s, -, hx⟩
      exact ((hpart s).mem.1 hx).1
    · exact fun hx => ⟨x.step, x.step.mem_all, (hpart _).mem.2 ⟨hx, rfl⟩⟩
  · rw [List.pairwise_flatMap]
    constructor
    · intro s _
      refine List.pairwise_of_forall_mem_list fun x hx y hy => ?_
      rw [((hpart s).mem.1 hx).2, ((hpart s).mem.1 hy).2]
    · have hsteps : Step.all.Pairwise fun s t => s.rank ≤ t.rank := by decide
      refine hsteps.imp fun hst x hx y hy => ?_
      rwa [((hpart _).mem.1 hx).2, ((hpart _).mem.1 hy).2]
  · intro step
    have hfilter : ∀ s, (part s).filter (·.step = step) = if s = step then part step else [] := by
      intro s
      split
      · rename_i hs
        subst hs
        exact List.filter_eq_self.2 fun x hx => by simpa using ((hpart s).mem.1 hx).2
      · rename_i hs
        rw [List.filter_eq_nil_iff]
        intro x hx hxs
        exact hs (((hpart s).mem.1 hx).2.symm.trans (by simpa using hxs))
    have hphase : (Step.all.flatMap part).filter (·.step = step) = part step := by
      rw [List.filter_flatMap]
      simp only [hfilter]
      cases step <;> simp [Step.all]
    rw [hphase]
    exact hpart step

theorem IsStackOrder.nodup (h : r.Coherent) {order : List Middleware} (ho : r.IsStackOrder order) :
    order.Nodup :=
  ho.perm.nodup_iff.2 h.nodup_entries

/-- The order of the stack keeps to every constraint. -/
theorem IsStackOrder.before (h : r.Coherent) {order : List Middleware} (ho : r.IsStackOrder order)
    (hxy : Constrains r.entries step x y) : order.idxOf x < order.idxOf y := by
  have hy : y ∈ order.filter (·.step = step) :=
    (ho.greedy step).mem.2 (constrains_iff.1 hxy).2.1
  exact idxOf_lt_idxOf_of_sublist List.filter_sublist (ho.nodup h) hy
    ((ho.greedy step).predecessor hxy).2

/-- What resolving does: it gives the order of the stack, or names the first dangling entry. -/
theorem Coherent.resolve_cases (h : r.Coherent) :
    ((∀ x peer, ¬ Dangles r.entries x peer) ∧
      ∃ order, r.resolve = .ok order ∧ r.IsStackOrder order) ∨
    (∃ x peer, IsFirstDangling r.entries x peer ∧
      r.resolve = .error (.unknownPeer x.name peer x.step)) := by
  by_cases hdangles : ∃ x peer, Dangles r.entries x peer
  · exact .inr (h.resolve_error hdangles)
  · have hpeers : ∀ x peer, ¬ Dangles r.entries x peer := fun x peer hx => hdangles ⟨x, peer, hx⟩
    obtain ⟨part, hpart, hresolve⟩ := h.resolve_ok hpeers
    exact .inl ⟨hpeers, _, hresolve, h.isStackOrder hpart⟩

/-- An order that resolving gives is that of the stack, and no peer is missing. -/
theorem Coherent.isStackOrder_of_resolve (h : r.Coherent) {order : List Middleware}
    (hresolve : r.resolve = .ok order) :
    r.IsStackOrder order ∧ ∀ x peer, ¬ Dangles r.entries x peer := by
  rcases h.resolve_cases with ⟨hpeers, order', horder', ho⟩ | ⟨x, peer, -, herror⟩
  · obtain rfl : order' = order := Except.ok.inj (horder'.symm.trans hresolve)
    exact ⟨ho, hpeers⟩
  · rw [herror] at hresolve
    cases hresolve

/-- In whatever way a registry has been filled, each phase stands in the order of the stack as the
greedy rule asks for, and only this order follows the rule. A phase in which no entry has a peer
stands in its base order. -/
theorem filter_resolve_of_calls {stack : String} {ds order : List Middleware}
    (h : ((new stack).submitAll ds).resolve = .ok order) (step : Step) :
    let r := (new stack).submitAll ds
    (∀ l, r.IsGreedyOrder step l ↔ l = order.filter (·.step = step)) ∧
    ((∀ x ∈ r.entries, x.step = step → x.position = .head ∨ x.position = .tail) →
      order.filter (·.step = step) = r.baseOrder step) := by
  intro r
  have hcoherent : r.Coherent := coherent_submitAll stack ds
  have hgreedy : r.IsGreedyOrder step (order.filter (·.step = step)) :=
    (hcoherent.isStackOrder_of_resolve h).1.greedy step
  refine ⟨fun l => ⟨fun hl => hl.unique hgreedy, fun hl => hl ▸ hgreedy⟩, fun hplain => ?_⟩
  have hfree : ∀ x y, ¬ Constrains r.entries step x y := by
    rintro x y (⟨hx, -, hxs, -, hposition⟩ | ⟨hy, -, hys, -, hposition⟩)
    · rcases hplain x hx hxs with hp | hp <;> rw [hp] at hposition <;> cases hposition
    · rcases hplain y hy hys with hp | hp <;> rw [hp] at hposition <;> cases hposition
  exact hgreedy.unique (hcoherent.isGreedyOrder_baseOrder hfree)

/-- A signer comes before the retry, though it is registered after it. -/
theorem filter_resolve_signer :
    let retry : Middleware := ⟨"Retry", .finalize, .tail, "Retry::new()"⟩
    let signer : Middleware := ⟨"Signer", .finalize, .before "Retry", "Signer::new()"⟩
    ((new "things").submitAll [retry, signer]).resolve = .ok [signer, retry] ∧
      ((new "things").submitAll [retry, signer]).IsGreedyOrder .finalize [signer, retry] := by
  intro retry signer
  have h : ((new "things").submitAll [retry, signer]).resolve = .ok [signer, retry] := by
    decide +kernel
  exact ⟨h, ((filter_resolve_of_calls h .finalize).1 _).2 rfl⟩

end Registry

end ClientGen
