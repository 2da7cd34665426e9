import ClientGen.Proofs.Middleware.Resolution

/-!
# Heads

In the order of a phase an entry with a lesser key stands before one with a greater key. Heads come
first in the base order, so a head stands before every entry from which constraints lead neither to
it nor to an older head. Only entries that name a peer to come before lead to heads at all: the
others stand behind all heads, whatever the constraints are.
-/

namespace ClientGen

namespace Registry

open Relation

variable {r : Registry} {step : Step} {x y : Middleware}

/-! ## Keys -/

theorem exists_key (r : Registry) (step : Step) (x : Middleware) :
    ∃ y, ReflTransGen (Constrains r.entries step) x y ∧
      (r.baseOrder step).idxOf y = r.key step x := by
  let places : Set Nat := {k | ∃ y, ReflTransGen (Constrains r.entries step) x y ∧
    (r.baseOrder step).idxOf y = k}
  have hne : places.Nonempty := ⟨(r.baseOrder step).idxOf x, x, .refl, rfl⟩
  exact Nat.sInf_mem hne

theorem key_le_idxOf (h : ReflTransGen (Constrains r.entries step) x y) :
    r.key step x ≤ (r.baseOrder step).idxOf y :=
  Nat.sInf_le ⟨y, h, rfl⟩

/-- An entry counts as early as what it leads to. -/
theorem key_le_key (h : ReflTransGen (Constrains r.entries step) x y) :
    r.key step x ≤ r.key step y := by
  obtain ⟨z, hyz, hz⟩ := exists_key r step y
  exact hz ▸ key_le_idxOf (h.trans hyz)

theorem mem_baseOrder_of_reaches (hx : x ∈ r.baseOrder step)
    (h : ReflTransGen (Constrains r.entries step) x y) : y ∈ r.baseOrder step := by
  rcases ReflTransGen.cases_tail h with rfl | ⟨z, -, hzy⟩
  · exact hx
  · exact (constrains_iff_baseOrder.1 hzy).2.1

/-- While an entry waits, some entry is ready that leads to it. -/
theorem IsGreedyOrder.exists_ready {before after : List Middleware}
    (h : r.IsGreedyOrder step (before ++ after)) (hx : x ∈ after) :
    ∃ z, ReflTransGen (Constrains r.entries step) z x ∧ r.IsReadyEntry step before z := by
  -- Of the entries behind `before` that lead to `x` the first one is ready.
  let waiting : Set Middleware :=
    {z | z ∈ before ++ after ∧ z ∉ before ∧ ReflTransGen (Constrains r.entries step) z x}
  have hbefore : x ∉ before := by
    obtain ⟨front, back, rfl⟩ := List.append_of_mem hx
    have hready := (h.next (before ++ front) x back (by simp)).ready
    exact fun hb => hready.left (List.mem_append_left _ hb)
  obtain ⟨z, ⟨hz, hzb, hzx⟩, hmin⟩ :=
    (measure (before ++ after).idxOf).wf.has_min waiting
      ⟨x, List.mem_append_right _ hx, hbefore, .refl⟩
  refine ⟨z, hzx, h.perm.mem_iff.1 hz, hzb, fun y hyz => ?_⟩
  obtain ⟨hy, hlt⟩ := h.predecessor hyz
  by_contra hyb
  exact hmin y ⟨hy, hyb, hzx.head hyz⟩ hlt

theorem IsGreedyOrder.mem_of_key_lt {before after : List Middleware}
    (h : r.IsGreedyOrder step (before ++ y :: after)) (hx : x ∈ before ++ y :: after)
    (hkey : r.key step x < r.key step y) : x ∈ before := by
  rcases List.mem_append.1 hx with hx | hx
  · exact hx
  · obtain ⟨z, hzx, hz⟩ := h.exists_ready hx
    have hleast := (h.next before y after rfl).least z hz
    have hle := key_le_key hzx
    omega

theorem IsGreedyOrder.idxOf_lt_of_key_lt {l : List Middleware} (h : r.IsGreedyOrder step l)
    (hx : x ∈ l) (hy : y ∈ l) (hkey : r.key step x < r.key step y) : l.idxOf x < l.idxOf y := by
  obtain ⟨before, after, rfl⟩ := List.append_of_mem hy
  exact idxOf_lt_idxOf (h.mem_of_key_lt hx hkey) (h.next before y after rfl).ready.left

/-! ## Heads in the base order -/

/-- Only heads that are older stand before a head. -/
theorem Coherent.older_of_idxOf_lt (h : r.Coherent) (hx : x ∈ r.baseOrder step)
    (hhead : x.position = .head)
    (hlt : (r.baseOrder step).idxOf y < (r.baseOrder step).idxOf x) :
    y.position = .head ∧ r.entries.idxOf y < r.entries.idxOf x := by
  let heads := (r.entries.filter (·.step = step)).filter (·.position = .head)
  let others := (r.entries.filter (·.step = step)).filter (·.position ≠ .head)
  change (heads ++ others).idxOf y < (heads ++ others).idxOf x at hlt
  have hxh : x ∈ heads := by
    simp [heads, hhead, mem_baseOrder.1 hx]
  rw [List.idxOf_append_of_mem hxh] at hlt
  have hyh : y ∈ heads := by
    by_contra hnot
    rw [List.idxOf_append_of_notMem hnot] at hlt
    have hbound := List.idxOf_lt_length_of_mem hxh
    omega
  rw [List.idxOf_append_of_mem hyh] at hlt
  refine ⟨by simpa using (List.mem_filter.1 hyh).2, ?_⟩
  exact idxOf_lt_idxOf_of_sublist (List.filter_sublist.trans List.filter_sublist)
    h.nodup_entries hxh hlt

/-- A head has a lesser key than an entry that leads to no head of its age or older. -/
theorem Coherent.key_lt_of_head (h : r.Coherent) (hx : x ∈ r.baseOrder step)
    (hhead : x.position = .head) (hy : y ∈ r.baseOrder step)
    (hfar : ∀ z ∈ r.entries, z.step = step → z.position = .head →
      r.entries.idxOf z ≤ r.entries.idxOf x → ¬ ReflTransGen (Constrains r.entries step) y z) :
    r.key step x < r.key step y := by
  obtain ⟨m, hym, hm⟩ := exists_key r step y
  have hmem := mem_baseOrder_of_reaches hy hym
  have hle : r.key step x ≤ (r.baseOrder step).idxOf x := key_le_idxOf .refl
  by_contra hnot
  have hmx : (r.baseOrder step).idxOf m ≤ (r.baseOrder step).idxOf x := by omega
  rcases hmx.lt_or_eq with hlt | heq
  · obtain ⟨hmhead, hold⟩ := h.older_of_idxOf_lt hx hhead hlt
    obtain ⟨hme, hms⟩ := mem_baseOrder.1 hmem
    exact hfar m hme hms hmhead hold.le hym
  · obtain rfl := (List.idxOf_inj hmem).1 heq
    obtain ⟨hme, hms⟩ := mem_baseOrder.1 hmem
    exact hfar m hme hms hhead le_rfl hym

/-! ## What leads to heads -/

/-- Only an entry that names a peer to come before leads to a head other than itself. -/
theorem before_of_reaches_head {entries : List Middleware}
    (h : ReflTransGen (Constrains entries step) x y) (hhead : y.position = .head) :
    x = y ∨ ∃ peer, x.position = .before peer := by
  induction h using ReflTransGen.head_induction_on with
  | refl => exact .inl rfl
  | @head a c he _ ih =>
    right
    rcases he with ⟨-, -, -, -, ha⟩ | ⟨-, -, -, -, hc⟩
    · exact ⟨c.name, ha⟩
    -- An entry that comes after its peer neither is a head nor has a peer to come before.
    · rcases ih with rfl | ⟨peer, hbefore⟩
      · rw [hhead] at hc
        cases hc
      · rw [hbefore] at hc
        cases hc

theorem IsStackOrder.head_before (h : r.Coherent) {order : List Middleware}
    (ho : r.IsStackOrder order) (hx : x ∈ r.entries) (hxs : x.step = step)
    (hhead : x.position = .head) (hy : y ∈ r.entries) (hys : y.step = step)
    (hfar : ∀ z ∈ r.entries, z.step = step → z.position = .head →
      r.entries.idxOf z ≤ r.entries.idxOf x → ¬ ReflTransGen (Constrains r.entries step) y z) :
    order.idxOf x < order.idxOf y := by
  have hgreedy := ho.greedy step
  have hxl := hgreedy.mem.2 ⟨hx, hxs⟩
  have hyl := hgreedy.mem.2 ⟨hy, hys⟩
  have hkey := h.key_lt_of_head (mem_baseOrder.2 ⟨hx, hxs⟩) hhead (mem_baseOrder.2 ⟨hy, hys⟩) hfar
  exact idxOf_lt_idxOf_of_sublist List.filter_sublist (ho.nodup h) hyl
    (hgreedy.idxOf_lt_of_key_lt hxl hyl hkey)

/-! ## After any calls -/

/-- In the order of a stack a head stands before every entry of its phase from which constraints
lead neither to it nor to a head registered before it. So heads keep the order of registration, and
all entries that come last or after a peer stand behind all heads of the phase. -/
theorem idxOf_head_lt_of_calls {stack : String} {ds order : List Middleware}
    (h : ((new stack).submitAll ds).resolve = .ok order) (step : Step) :
    let r := (new stack).submitAll ds
    (∀ x ∈ r.entries, x.step = step → x.position = .head → ∀ y ∈ r.entries, y.step = step →
      (∀ z ∈ r.entries, z.step = step → z.position = .head →
        r.entries.idxOf z ≤ r.entries.idxOf x →
        ¬ ReflTransGen (Constrains r.entries step) y z) →
      order.idxOf x < order.idxOf y) ∧
    (∀ x ∈ r.entries, x.step = step → x.position = .head →
      ∀ y ∈ r.entries, y.step = step → y.position = .head →
        r.entries.idxOf x < r.entries.idxOf y → order.idxOf x < order.idxOf y) ∧
    (∀ x ∈ r.entries, x.step = step → x.position = .head →
      ∀ y ∈ r.entries, y.step = step →
        (y.position = .tail ∨ ∃ peer, y.position = .after peer) →
        order.idxOf x < order.idxOf y) := by
  intro r
  have hcoherent : r.Coherent := coherent_submitAll stack ds
  obtain ⟨ho, -⟩ := hcoherent.isStackOrder_of_resolve h
  refine ⟨fun x hx hxs hhead y hy hys hfar => ho.head_before hcoherent hx hxs hhead hy hys hfar,
    fun x hx hxs hhead y hy hys hyhead hold => ?_, fun x hx hxs hhead y hy hys hlate => ?_⟩
  · refine ho.head_before hcoherent hx hxs hhead hy hys fun z _ _ hz hzx hreach => ?_
    rcases before_of_reaches_head hreach hz with rfl | ⟨peer, hbefore⟩
    · omega
    · rw [hyhead] at hbefore
      cases hbefore
  · have hnohead : y.position ≠ .head := by
      rcases hlate with hlate | ⟨peer, hlate⟩ <;> simp [hlate]
    have hnobefore : ∀ peer, y.position ≠ .before peer := by
      rcases hlate with hlate | ⟨peer, hlate⟩ <;> simp [hlate]
    refine ho.head_before hcoherent hx hxs hhead hy hys fun z _ _ hz _ hreach => ?_
    rcases before_of_reaches_head hreach hz with rfl | ⟨peer, hbefore⟩
    · exact hnohead hz
    · exact hnobefore peer hbefore

/-- A tracer that comes before the first head leaves the log behind both heads. -/
theorem idxOf_head_lt_log :
    let log : Middleware := ⟨"Log", .build, .tail, "Log::new()"⟩
    let trace : Middleware := ⟨"Trace", .build, .before "Auth", "Trace::new()"⟩
    let auth : Middleware := ⟨"Auth", .build, .head, "Auth::new()"⟩
    let retry : Middleware := ⟨"Retry", .build, .head, "Retry::new()"⟩
    ((new "things").submitAll [log, trace, auth, retry]).resolve =
        .ok [trace, auth, retry, log] ∧
      [trace, auth, retry, log].idxOf retry < [trace, auth, retry, log].idxOf log := by
  intro log trace auth retry
  have h : ((new "things").submitAll [log, trace, auth, retry]).resolve =
      .ok [trace, auth, retry, log] := by
    decide +kernel
  have hentries : ((new "things").submitAll [log, trace, auth, retry]).entries =
      [log, trace, auth, retry] := by
    decide +kernel
  obtain ⟨-, -, hlate⟩ := idxOf_head_lt_of_calls h .build
  rw [hentries] at hlate
  exact ⟨h, hlate retry (by simp) rfl rfl log (by simp) rfl (.inl rfl)⟩

end Registry

end ClientGen
