import ClientGen.Proofs.Middleware.Forward
import ClientGen.Proofs.Middleware.Heads

/-!
# One more head or tail

An entry that comes first or last names no peer, and no entry names it as long as no peer is
missing. To put it to a registry changes the numbers of the base order and with them the keys, but
neither which of two keys is the lesser nor what leads to what. So the greedy order of the others is
what it was, and the new entry has its place in it.
-/

namespace ClientGen

namespace Registry

open Relation

variable {r more : Registry} {step : Step} {d x y : Middleware}

/-! ## A phase with further entries -/

/-- The phase has the same constraints in both registries, and the entries of the first one stand in
the same base order in the second one, with others between them. -/
structure Extends (r more : Registry) (step : Step) : Prop where
  base : (r.baseOrder step).Sublist (more.baseOrder step)
  nodup : (more.baseOrder step).Nodup
  same : Constrains more.entries step = Constrains r.entries step

namespace Extends

theorem idxOf_lt_iff (h : r.Extends more step) (hx : x ∈ r.baseOrder step)
    (hy : y ∈ r.baseOrder step) :
    (r.baseOrder step).idxOf x < (r.baseOrder step).idxOf y ↔
      (more.baseOrder step).idxOf x < (more.baseOrder step).idxOf y :=
  idxOf_lt_idxOf_iff_of_sublist h.base h.nodup hx hy

theorem exists_key (h : r.Extends more step) (hx : x ∈ r.baseOrder step) :
    ∃ m ∈ r.baseOrder step, (r.baseOrder step).idxOf m = r.key step x ∧
      (more.baseOrder step).idxOf m = more.key step x := by
  obtain ⟨m, hxm, hm⟩ := Registry.exists_key r step x
  obtain ⟨m', hxm', hm'⟩ := Registry.exists_key more step x
  rw [h.same] at hxm'
  have hmem := mem_baseOrder_of_reaches hx hxm
  have hmem' := mem_baseOrder_of_reaches hx hxm'
  -- The entry that decides the key is the same in both registries.
  refine ⟨m, hmem, hm, ?_⟩
  have hle : more.key step x ≤ (more.baseOrder step).idxOf m := by
    apply key_le_idxOf
    rw [h.same]
    exact hxm
  have hge : r.key step x ≤ (r.baseOrder step).idxOf m' := key_le_idxOf hxm'
  by_contra hne
  have hlt := (h.idxOf_lt_iff hmem' hmem).2 (by omega)
  omega

/-- Of two entries the same one comes next, whatever stands between them. -/
theorem leads (h : r.Extends more step) (hx : x ∈ r.baseOrder step) (hy : y ∈ r.baseOrder step)
    (hxy : more.key step x < more.key step y ∨ (more.key step x = more.key step y ∧
      (more.baseOrder step).idxOf x ≤ (more.baseOrder step).idxOf y)) :
    r.key step x < r.key step y ∨ (r.key step x = r.key step y ∧
      (r.baseOrder step).idxOf x ≤ (r.baseOrder step).idxOf y) := by
  obtain ⟨m, hm, hkx, hkx'⟩ := h.exists_key hx
  obtain ⟨n, hn, hky, hky'⟩ := h.exists_key hy
  rw [← hkx', ← hky'] at hxy
  rw [← hkx, ← hky]
  rcases hxy with hlt | ⟨heq, hle⟩
  · exact .inl ((h.idxOf_lt_iff hm hn).2 hlt)
  · obtain rfl := (List.idxOf_inj (h.base.subset hm)).1 heq
    refine .inr ⟨rfl, ?_⟩
    by_contra hnot
    have hback := (h.idxOf_lt_iff hy hx).1 (by omega)
    omega

/-- The greedy order of a phase is that of the phase with further entries, without these. -/
theorem isGreedyOrder_filter (h : r.Extends more step) {l : List Middleware}
    (hl : more.IsGreedyOrder step l) :
    r.IsGreedyOrder step (l.filter (· ∈ r.baseOrder step)) := by
  constructor
  · have hnodup : l.Nodup := hl.perm.nodup_iff.2 h.nodup
    rw [List.perm_ext_iff_of_nodup (hnodup.filter _) (h.nodup.sublist h.base)]
    intro x
    simp only [List.mem_filter, decide_eq_true_eq, and_iff_right_iff_imp]
    exact fun hx => hl.perm.mem_iff.2 (h.base.subset hx)
  · intro before x after heq
    obtain ⟨front, rest, rfl, rfl, hrest⟩ := List.filter_eq_append_iff.1 heq
    obtain ⟨between, back, rfl, hbetween, hx, rfl⟩ := List.filter_eq_cons_iff.1 hrest
    have hnext := hl.next (front ++ between) x back (by simp)
    have hxb : x ∈ r.baseOrder step := by simpa using hx
    -- Between the entries before `x` and `x` itself only further entries have been taken.
    have hold : ∀ y ∈ r.baseOrder step, y ∈ front ++ between ↔
        y ∈ front.filter (· ∈ r.baseOrder step) := by
      intro y hy
      have hyb : y ∉ between := fun hmem => hbetween y hmem (by simpa using hy)
      rw [List.mem_append, List.mem_filter, decide_eq_true_eq]
      simp only [hy, hyb, or_false, and_true]
    refine ⟨⟨hxb, fun hmem => hnext.ready.left ((hold x hxb).2 hmem), fun y hyx => ?_⟩,
      fun y hy => ?_⟩
    · have hyb := (constrains_iff_baseOrder.1 hyx).1
      rw [← h.same] at hyx
      exact (hold y hyb).1 (hnext.ready.released y hyx)
    · refine h.leads hxb hy.mem (hnext.least y ⟨h.base.subset hy.mem, ?_, fun z hzy => ?_⟩)
      · exact fun hmem => hy.left ((hold y hy.mem).1 hmem)
      · rw [h.same] at hzy
        have hzb := (constrains_iff_baseOrder.1 hzy).1
        exact (hold z hzb).2 (hy.released z hzy)

end Extends

/-! ## The new entry -/

theorem not_mem_of_new (hnew : ∀ x ∈ r.entries, x.name ≠ d.name) : d ∉ r.entries :=
  fun hd => hnew d hd rfl

/-- A new entry without a peer neither constrains another one nor is constrained. -/
theorem constrains_concat (hpeers : ∀ x peer, ¬ Dangles r.entries x peer)
    (hnew : ∀ x ∈ r.entries, x.name ≠ d.name)
    (hplain : d.position = .head ∨ d.position = .tail) (step : Step) :
    Constrains (r.entries ++ [d]) step = Constrains r.entries step := by
  funext x y
  apply propext
  constructor
  · intro he
    refine he.of_concat ?_ ?_
    · rintro rfl
      obtain rfl : x.step = step := (constrains_iff.1 he).1.2
      exact not_constrains_of_new hpeers hnew (hplain.imp_right .inl) y he
    · rintro rfl
      rcases he with ⟨hx, -, -, -, hbefore⟩ | ⟨-, -, -, -, hafter⟩
      · rcases List.mem_append.1 hx with hx | hx
        · exact hpeers x y.name ⟨hx, .inl hbefore, fun z hz _ => hnew z hz⟩
        · obtain rfl := List.mem_singleton.1 hx
          rcases hplain with hp | hp <;> rw [hp] at hbefore <;> cases hbefore
      · rcases hplain with hp | hp <;> rw [hp] at hafter <;> cases hafter
  · intro he
    rw [constrains_iff] at he ⊢
    obtain ⟨⟨hx, hxs⟩, ⟨hy, hys⟩, hprecedes⟩ := he
    exact ⟨⟨List.mem_append_left _ hx, hxs⟩, ⟨List.mem_append_left _ hy, hys⟩, hprecedes⟩

theorem baseOrder_sublist (r : Registry) (d : Middleware) (step : Step) :
    (r.baseOrder step).Sublist
      (({ r with entries := r.entries ++ [d] } : Registry).baseOrder step) := by
  have hphase := (List.sublist_append_left r.entries [d]).filter (·.step = step)
  exact (hphase.filter _).append (hphase.filter _)

theorem baseOrder_concat_tail (r : Registry) (htail : d.position = .tail) :
    ({ r with entries := r.entries ++ [d] } : Registry).baseOrder d.step =
      r.baseOrder d.step ++ [d] := by
  simp [baseOrder, List.filter_append, htail]

theorem eq_of_reaches_of_free {entries : List Middleware}
    (hfree : ∀ y, ¬ Constrains entries step x y) (h : ReflTransGen (Constrains entries step) x y) :
    y = x := by
  rcases ReflTransGen.cases_head h with rfl | ⟨z, hxz, -⟩
  · rfl
  · exact absurd hxz (hfree z)

/-- A registry whose entry `d`, registered last, comes first or last and stands for itself. -/
structure Adds (r more : Registry) (d : Middleware) : Prop where
  old : r.Coherent
  coherent : more.Coherent
  entries : more.entries = r.entries ++ [d]
  new : d ∉ r.entries
  same : ∀ step, Constrains more.entries step = Constrains r.entries step

namespace Adds

theorem mem (h : r.Adds more d) : d ∈ more.entries := by simp [h.entries]

theorem not_constrains (h : r.Adds more d) (y : Middleware) :
    ¬ Constrains more.entries step d y := by
  rw [h.same]
  exact fun he => h.new (constrains_iff.1 he).1.1

theorem not_constrained (h : r.Adds more d) (y : Middleware) :
    ¬ Constrains more.entries step y d := by
  rw [h.same]
  exact fun he => h.new (constrains_iff.1 he).2.1.1

theorem baseOrder_eq (h : r.Adds more d) (step : Step) :
    more.baseOrder step = ({ r with entries := r.entries ++ [d] } : Registry).baseOrder step := by
  rw [baseOrder, baseOrder, h.entries]

theorem extends_phase (h : r.Adds more d) (step : Step) : r.Extends more step where
  base := by
    rw [h.baseOrder_eq]
    exact baseOrder_sublist r d step
  nodup := h.coherent.nodup_baseOrder step
  same := h.same step

/-- Of a phase the order without the new entry is the old one. -/
theorem phase_eq (h : r.Adds more d) {l l' : List Middleware} (hl : r.IsGreedyOrder step l)
    (hl' : more.IsGreedyOrder step l') : l = l'.filter (· ≠ d) := by
  rw [hl.unique ((h.extends_phase step).isGreedyOrder_filter hl')]
  refine List.filter_congr fun x hx => ?_
  have hmem : x ∈ r.entries ++ [d] ∧ x.step = step := h.entries ▸ hl'.mem.1 hx
  have hnew := h.new
  rw [decide_eq_decide, mem_baseOrder]
  constructor
  · rintro ⟨hold, -⟩ rfl
    exact hnew hold
  · intro hne
    refine ⟨?_, hmem.2⟩
    simpa [hne] using hmem.1

/-- A new tail comes after all others of its phase. -/
theorem after_eq_nil (h : r.Adds more d) (htail : d.position = .tail)
    {before after : List Middleware}
    (hl : more.IsGreedyOrder d.step (before ++ d :: after)) : after = [] := by
  have hbase : more.baseOrder d.step = r.baseOrder d.step ++ [d] := by
    rw [h.baseOrder_eq, baseOrder_concat_tail r htail]
  have hnodup : (before ++ d :: after).Nodup := hl.perm.nodup_iff.2 (h.coherent.nodup_baseOrder _)
  refine List.eq_nil_iff_forall_not_mem.2 fun y hy => ?_
  have hyl : y ∈ before ++ d :: after := by simp [hy]
  have hyd : y ≠ d := by
    rintro rfl
    exact (List.nodup_cons.1 (List.nodup_middle.1 hnodup)).1 (List.mem_append_right _ hy)
  have hyb : y ∈ r.baseOrder d.step := by
    have hmem := hl.perm.mem_iff.1 hyl
    rw [hbase] at hmem
    simpa [hyd] using hmem
  have hkey : more.key d.step y < more.key d.step d := by
    have hle : more.key d.step y ≤ (more.baseOrder d.step).idxOf y := key_le_idxOf .refl
    obtain ⟨m, hdm, hm⟩ := exists_key more d.step d
    obtain rfl := eq_of_reaches_of_free h.not_constrains hdm
    have hlt := List.idxOf_lt_length_of_mem hyb
    have hnot : m ∉ r.baseOrder m.step := fun hmem => h.new (mem_baseOrder.1 hmem).1
    rw [hbase, List.idxOf_append_of_mem hyb] at hle
    rw [hbase, List.idxOf_append_of_notMem hnot] at hm
    omega
  exact List.disjoint_of_nodup_append hnodup (hl.mem_of_key_lt hyl hkey)
    (List.mem_cons_of_mem _ hy)

theorem head_mem_before (h : r.Adds more d) {before after : List Middleware}
    (hl : more.IsGreedyOrder d.step (before ++ d :: after)) (hx : x ∈ r.entries)
    (hxs : x.step = d.step) (hxhead : x.position = .head) : x ∈ before := by
  have hxm : x ∈ more.entries := by simp [h.entries, hx]
  have hkey : more.key d.step x < more.key d.step d := by
    refine h.coherent.key_lt_of_head (mem_baseOrder.2 ⟨hxm, hxs⟩) hxhead
      (mem_baseOrder.2 ⟨h.mem, rfl⟩) fun z _ _ _ hzx hdz => ?_
    obtain rfl := eq_of_reaches_of_free h.not_constrains hdz
    have hlt := List.idxOf_lt_length_of_mem hx
    rw [h.entries, List.idxOf_append_of_notMem h.new, List.idxOf_append_of_mem hx] at hzx
    omega
  exact hl.mem_of_key_lt (hl.mem.2 ⟨hxm, hxs⟩) hkey

/-- A new head stands before the entries of its phase that lead to no head. -/
theorem mem_after_of_head (h : r.Adds more d) (hhead : d.position = .head)
    {before after : List Middleware} (hl : more.IsGreedyOrder d.step (before ++ d :: after))
    (hy : y ∈ r.entries) (hys : y.step = d.step)
    (hfar : ∀ z ∈ r.entries, z.step = d.step → z.position = .head →
      ¬ ReflTransGen (Constrains r.entries d.step) y z) : y ∈ after := by
  have hym : y ∈ more.entries := by simp [h.entries, hy]
  have hyd : y ≠ d := fun heq => h.new (heq ▸ hy)
  have hkey : more.key d.step d < more.key d.step y := by
    refine h.coherent.key_lt_of_head (mem_baseOrder.2 ⟨h.mem, rfl⟩) hhead
      (mem_baseOrder.2 ⟨hym, hys⟩) fun z hz hzs hzhead _ hyz => ?_
    rcases ReflTransGen.cases_tail hyz with rfl | ⟨w, -, hwz⟩
    · exact hfar z hy hys hzhead .refl
    · have hzd : z ≠ d := by
        rintro rfl
        exact h.not_constrained w hwz
      rw [h.entries] at hz
      rw [h.same] at hyz
      exact hfar z (by simpa [hzd] using hz) hzs hzhead hyz
  have hyl : y ∈ before ++ d :: after := hl.mem.2 ⟨hym, hys⟩
  have hlt := hl.idxOf_lt_of_key_lt (hl.mem.2 ⟨h.mem, rfl⟩) hyl hkey
  rcases List.mem_append.1 hyl with hyb | hya
  · have hd := (hl.next before d after rfl).ready.left
    have hback : (before ++ d :: after).idxOf y < (before ++ d :: after).idxOf d :=
      idxOf_lt_idxOf hyb hd
    omega
  · exact (List.mem_cons.1 hya).resolve_left hyd

theorem phase_eq_of_ne (h : r.Adds more d) (hs : step ≠ d.step) {l l' : List Middleware}
    (hl : r.IsGreedyOrder step l) (hl' : more.IsGreedyOrder step l') : l = l' := by
  rw [h.phase_eq hl hl']
  refine List.filter_eq_self.2 fun x hx => ?_
  have hxd : x ≠ d := by
    rintro rfl
    exact hs (hl'.mem.1 hx).2.symm
  simpa using hxd

theorem phase_eq_append (h : r.Adds more d) {l before after : List Middleware}
    (hl : r.IsGreedyOrder d.step l) (hl' : more.IsGreedyOrder d.step (before ++ d :: after)) :
    l = before ++ after := by
  have hnodup : (before ++ d :: after).Nodup := hl'.perm.nodup_iff.2 (h.coherent.nodup_baseOrder _)
  have hout : d ∉ before ++ after := (List.nodup_cons.1 (List.nodup_middle.1 hnodup)).1
  have hkeep : ∀ l : List Middleware, d ∉ l → l.filter (· ≠ d) = l := by
    intro l hd
    refine List.filter_eq_self.2 fun x hx => ?_
    simpa using ne_of_mem_of_not_mem hx hd
  rw [h.phase_eq hl hl', List.filter_append, List.filter_cons_of_neg (by simp),
    ← List.filter_append, hkeep _ hout]

/-- The order of the stack is the old one with the new entry in its phase. -/
theorem exists_order (h : r.Adds more d) (hpeers : ∀ x peer, ¬ Dangles r.entries x peer)
    (hpeers' : ∀ x peer, ¬ Dangles more.entries x peer) :
    ∃ earlier before after later, r.resolve = .ok (earlier ++ (before ++ after) ++ later) ∧
      more.resolve = .ok (earlier ++ (before ++ d :: after) ++ later) ∧
      more.IsGreedyOrder d.step (before ++ d :: after) ∧ ∀ y ∈ later, y.step ≠ d.step := by
  obtain ⟨part, hpart, hresolve⟩ := h.old.resolve_ok hpeers
  obtain ⟨part', hpart', hresolve'⟩ := h.coherent.resolve_ok hpeers'
  have hd : d ∈ part' d.step := (hpart' d.step).mem.2 ⟨h.mem, rfl⟩
  obtain ⟨before, after, hsplit⟩ := List.append_of_mem hd
  have hl' : more.IsGreedyOrder d.step (before ++ d :: after) := hsplit ▸ hpart' d.step
  have hown : part d.step = before ++ after := h.phase_eq_append (hpart d.step) hl'
  obtain ⟨first, last, hall, hfirst, hlast⟩ := d.step.exists_around
  have hsame : ∀ l : List Step, d.step ∉ l → l.flatMap part' = l.flatMap part := fun l hl =>
    List.flatMap_congr fun s hs =>
      (h.phase_eq_of_ne (ne_of_mem_of_not_mem hs hl) (hpart s) (hpart' s)).symm
  refine ⟨first.flatMap part, before, after, last.flatMap part, ?_, ?_, hl', ?_⟩
  · rw [hresolve, hall, List.flatMap_append, List.flatMap_cons, hown]
    simp only [List.append_assoc]
  · rw [hresolve', hall, List.flatMap_append, List.flatMap_cons, hsplit, hsame _ hfirst,
      hsame _ hlast]
    simp only [List.append_assoc, List.cons_append]
  · intro y hy
    obtain ⟨s, hs, hys⟩ := List.mem_flatMap.1 hy
    exact ((hpart s).mem.1 hys).2 ▸ ne_of_mem_of_not_mem hs hlast

end Adds

/-- A coherent registry without missing peers accepts a new entry that comes first or last. -/
theorem Coherent.adds (h : r.Coherent) (hpeers : ∀ x peer, ¬ Dangles r.entries x peer)
    (hnew : ∀ x ∈ r.entries, x.name ≠ d.name)
    (hplain : d.position = .head ∨ d.position = .tail) :
    r.submit d = (.ok (), { r with entries := r.entries ++ [d] }) ∧
      r.Adds { r with entries := r.entries ++ [d] } d := by
  have hsame := constrains_concat hpeers hnew hplain
  have hsubmit : r.submit d = (.ok (), { r with entries := r.entries ++ [d] }) := by
    apply submit_acyclic hnew
    rw [hsame]
    exact h.acyclic d.step
  have hcoherent := h.submit d
  rw [hsubmit] at hcoherent
  exact ⟨hsubmit, h, hcoherent, rfl, not_mem_of_new hnew, hsame⟩

/-! ## After any calls -/

/-- Where a stack has an order, a new head or tail is accepted, and the stack then has the order it
had, with the new entry put in. A tail is the last of its phase. A head stands behind the heads of
its phase that were there, and before all entries of the phase that lead to none of these. -/
theorem resolve_concat_of_calls {stack : String} {ds order : List Middleware} {d : Middleware}
    (h : ((new stack).submitAll ds).resolve = .ok order)
    (hnew : ∀ x ∈ ((new stack).submitAll ds).entries, x.name ≠ d.name)
    (hplain : d.position = .head ∨ d.position = .tail) :
    let r := (new stack).submitAll ds
    let more : Registry := { r with entries := r.entries ++ [d] }
    r.submit d = (.ok (), more) ∧
    ∃ before after, order = before ++ after ∧ more.resolve = .ok (before ++ d :: after) ∧
      (d.position = .tail → ∀ y ∈ after, y.step ≠ d.step) ∧
      (d.position = .head →
        (∀ x ∈ r.entries, x.step = d.step → x.position = .head → x ∈ before) ∧
        ∀ y ∈ r.entries, y.step = d.step →
          (∀ z ∈ r.entries, z.step = d.step → z.position = .head →
            ¬ ReflTransGen (Constrains r.entries d.step) y z) → y ∈ after) := by
  intro r more
  have hcoherent : r.Coherent := coherent_submitAll stack ds
  obtain ⟨-, hpeers⟩ := hcoherent.isStackOrder_of_resolve h
  obtain ⟨hsubmit, hadds⟩ := hcoherent.adds hpeers hnew hplain
  have hpeers' : ∀ x peer, ¬ Dangles more.entries x peer :=
    (register_forward hcoherent hpeers hnew (hplain.imp_right .inl)).2
  obtain ⟨earlier, before, after, later, hold, hmore, hl, hlater⟩ :=
    hadds.exists_order hpeers hpeers'
  obtain rfl : earlier ++ (before ++ after) ++ later = order := Except.ok.inj (hold.symm.trans h)
  refine ⟨hsubmit, earlier ++ before, after ++ later, by simp, ?_, ?_, ?_⟩
  · exact hmore.trans (by simp)
  · intro htail
    obtain rfl := hadds.after_eq_nil htail hl
    exact hlater
  · intro hhead
    refine ⟨fun x hx hxs hxhead => ?_, fun y hy hys hfar => ?_⟩
    · exact List.mem_append_right _ (hadds.head_mem_before hl hx hxs hxhead)
    · exact List.mem_append_left _ (hadds.mem_after_of_head hhead hl hy hys hfar)

/-- A second head comes behind the tracer, which leads to the first one, but before the log. -/
theorem resolve_concat_retry :
    let log : Middleware := ⟨"Log", .build, .tail, "Log::new()"⟩
    let trace : Middleware := ⟨"Trace", .build, .before "Auth", "Trace::new()"⟩
    let auth : Middleware := ⟨"Auth", .build, .head, "Auth::new()"⟩
    let retry : Middleware := ⟨"Retry", .build, .head, "Retry::new()"⟩
    ((new "things").submitAll [log, trace, auth]).resolve = .ok [trace, auth, log] ∧
      (((new "things").submitAll [log, trace, auth]).submit retry).1 = .ok () ∧
      ∃ before after, [trace, auth, log] = before ++ after ∧ auth ∈ before ∧
        ((new "things").submitAll [log, trace, auth, retry]).resolve =
          .ok (before ++ retry :: after) := by
  intro log trace auth retry
  have h : ((new "things").submitAll [log, trace, auth]).resolve = .ok [trace, auth, log] := by
    decide +kernel
  have hnew : ∀ x ∈ ((new "things").submitAll [log, trace, auth]).entries, x.name ≠ retry.name := by
    decide +kernel
  obtain ⟨hsubmit, before, after, horder, hresolve, -, hhead⟩ :=
    resolve_concat_of_calls h hnew (.inl rfl)
  refine ⟨h, by rw [hsubmit], before, after, horder, ?_, ?_⟩
  · exact (hhead rfl).1 auth (by decide +kernel) rfl rfl
  · rw [← hresolve]
    exact congrArg (fun result => result.2.resolve) hsubmit

end Registry

end ClientGen
