import ClientGen.Proofs.Order.Acyclic

/-!
# The order of a graph is the greedy one

The loop that orders the vertices keeps counts of edges, and the vertices that are ready. Here its
state is tied to what it stands for: the count of a vertex is the number of its predecessors that
have not been taken, and the ready vertices are exactly those whose predecessors have all been
taken. From this each step takes the least ready vertex, and the loop ends with all vertices in a
topological order, or with vertices each of which has a predecessor among them.
-/

namespace ClientGen

namespace Graph

open scoped List

variable {n : Nat} {g : Graph n} {P : Type} [LinearOrder P] {priority : Fin n → P}

/-! ## What the greedy rule says -/

/-- The vertex has not been taken, and all that lead to it have. -/
structure IsReady (g : Graph n) (taken : List (Fin n)) (v : Fin n) : Prop where
  left : v ∉ taken
  released : ∀ u, g.Edge u v → u ∈ taken

/-- The priority of `a` is less, or they are equal and `a` is not the greater number. -/
def Leads (priority : Fin n → P) (a b : Fin n) : Prop :=
  priority a < priority b ∨ (priority a = priority b ∧ a ≤ b)

/-- Of the vertices that are ready the vertex is the least. -/
structure IsNext (g : Graph n) (priority : Fin n → P) (taken : List (Fin n)) (v : Fin n) : Prop where
  ready : g.IsReady taken v
  least : ∀ u, g.IsReady taken u → Leads priority v u

/-- Each vertex of the list is the least that is ready after those before it. -/
def IsGreedy (g : Graph n) (priority : Fin n → P) (order : List (Fin n)) : Prop :=
  ∀ before v after, order = before ++ v :: after → g.IsNext priority before v

theorem isGreedy_nil : g.IsGreedy priority [] := by
  intro before v after h
  simp at h

theorem IsGreedy.concat {order : List (Fin n)} {v : Fin n} (h : g.IsGreedy priority order)
    (hv : g.IsNext priority order v) : g.IsGreedy priority (order ++ [v]) := by
  intro before w after heq
  rcases List.eq_nil_or_concat after with rfl | ⟨after, last, rfl⟩
  · obtain ⟨hbefore, hw⟩ := List.append_inj' heq rfl
    obtain rfl : v = w := by simpa using hw
    rwa [← hbefore]
  · have hinner : order ++ [v] = (before ++ w :: after) ++ [last] := by simpa using heq
    obtain ⟨horder, -⟩ := List.append_inj' hinner rfl
    exact h before w after horder

/-- What leads to a vertex is taken before it. -/
theorem IsGreedy.predecessor {order : List (Fin n)} {u v : Fin n} (h : g.IsGreedy priority order)
    (hv : v ∈ order) (he : g.Edge u v) : u ∈ order ∧ order.idxOf u < order.idxOf v := by
  obtain ⟨before, after, rfl⟩ := List.append_of_mem hv
  have hnext := h before v after rfl
  have hu : u ∈ before := hnext.ready.released u he
  exact ⟨List.mem_append_left _ hu, idxOf_lt_idxOf hu hnext.ready.left⟩

/-- Nothing that a greedy order takes is led to by what it takes later. -/
theorem IsGreedy.isTopological {order : List (Fin n)} (h : g.IsGreedy priority order)
    (hperm : order.Perm (List.finRange n)) : g.IsTopological order :=
  ⟨hperm, fun he => (h.predecessor (hperm.mem_iff.2 (List.mem_finRange _)) he).2⟩

/-! ## The least of some vertices -/

theorem leads_refl (a : Fin n) : Leads priority a a := .inr ⟨rfl, le_refl a⟩

theorem Leads.trans {a b c : Fin n} (hab : Leads priority a b) (hbc : Leads priority b c) :
    Leads priority a c := by
  rcases hab with hab | ⟨hab, hab'⟩ <;> rcases hbc with hbc | ⟨hbc, hbc'⟩
  · exact .inl (hab.trans hbc)
  · exact .inl (hbc ▸ hab)
  · exact .inl (hab ▸ hbc)
  · exact .inr ⟨hab.trans hbc, hab'.trans hbc'⟩

variable [DecidableLT P]

theorem leads_of_comesBefore {a b : Fin n} (h : comesBefore priority a b = true) :
    Leads priority a b := by
  simp only [comesBefore, Bool.or_eq_true, Bool.and_eq_true, Bool.not_eq_true',
    decide_eq_true_eq, decide_eq_false_iff_not, not_lt] at h
  rcases h with h | ⟨hle, hlt⟩
  · exact .inl h
  · exact hle.lt_or_eq.imp_right fun heq => ⟨heq, hlt.le⟩

theorem leads_of_not_comesBefore {a b : Fin n} (h : ¬ comesBefore priority b a = true) :
    Leads priority a b := by
  simp only [comesBefore, Bool.or_eq_true, Bool.and_eq_true, Bool.not_eq_true',
    decide_eq_true_eq, decide_eq_false_iff_not, not_lt, not_or, not_and] at h
  obtain ⟨hle, hnum⟩ := h
  rcases hle.lt_or_eq with hlt | heq
  · exact .inl hlt
  · exact .inr ⟨heq, hnum heq.ge⟩

theorem first?_eq_none {l : List (Fin n)} : first? priority l = none ↔ l = [] := by
  cases l with
  | nil => simp [first?]
  | cons a rest => cases h : first? priority rest <;> simp [first?, h]

/-- The first of the vertices is the least of them by priority and number. -/
theorem leads_of_first? {l : List (Fin n)} {a : Fin n} (h : first? priority l = some a) :
    ∀ b ∈ l, Leads priority a b := by
  induction l generalizing a with
  | nil => simp
  | cons c rest ih =>
    intro b hb
    simp only [first?] at h
    cases hrest : first? priority rest with
    | none =>
      obtain rfl := first?_eq_none.1 hrest
      rw [hrest] at h
      obtain rfl := Option.some.inj h
      obtain rfl := List.mem_singleton.1 hb
      exact leads_refl _
    | some d =>
      rw [hrest] at h
      replace h := Option.some.inj h
      have hd := ih hrest
      by_cases hdc : comesBefore priority d c = true
      · rw [if_pos hdc] at h
        subst h
        rcases List.mem_cons.1 hb with rfl | hb
        · exact leads_of_comesBefore hdc
        · exact hd b hb
      · rw [if_neg hdc] at h
        subst h
        rcases List.mem_cons.1 hb with rfl | hb
        · exact leads_refl _
        · exact (leads_of_not_comesBefore hdc).trans (hd b hb)

/-! ## What one step does to the counts -/

/-- The predecessors of a vertex that have not been taken. -/
def pending (g : Graph n) (taken : List (Fin n)) (v : Fin n) : List (Fin n) :=
  (g.predecessors v).filter (· ∉ taken)

theorem mem_free {counts : Vector Nat n} {l : List (Fin n)} {v : Fin n} :
    v ∈ free counts l ↔ v ∈ l ∧ counts.get v = 0 := by
  rw [free, List.mem_filter, beq_iff_eq]
  rfl

theorem mem_held {counts : Vector Nat n} {l : List (Fin n)} {v : Fin n} :
    v ∈ held counts l ↔ v ∈ l ∧ counts.get v ≠ 0 := by
  rw [held, List.mem_filter, bne_iff_ne]
  rfl

theorem get_set_self (xs : Vector Nat n) (v : Fin n) (k : Nat) :
    (xs.set v.val k v.isLt).get v = k :=
  Vector.getElem_set_self _

theorem get_set_of_ne (xs : Vector Nat n) {u v : Fin n} (huv : u ≠ v) (k : Nat) :
    (xs.set u.val k u.isLt).get v = xs.get v :=
  Vector.getElem_set_ne _ _ fun hval => huv (Fin.ext hval)

omit [LinearOrder P] [DecidableLT P] in
theorem get_lower (l : List (Fin n)) (hl : l.Nodup) (counts : Vector Nat n) (v : Fin n) :
    (l.foldl (fun counts (v : Fin n) => counts.set v.val (counts.get v - 1) v.isLt) counts).get v =
      if v ∈ l then counts.get v - 1 else counts.get v := by
  induction l generalizing counts with
  | nil => simp
  | cons u l ih =>
    obtain ⟨hu, hl⟩ := List.nodup_cons.1 hl
    rw [List.foldl_cons, ih hl]
    by_cases huv : u = v
    · subst huv
      rw [if_neg hu, if_pos List.mem_cons_self, get_set_self]
    · simp [Ne.symm huv, get_set_of_ne _ huv]

/-- Taking a vertex lowers the counts of exactly its successors. -/
theorem get_release (counts : Vector Nat n) (u v : Fin n) :
    (g.release counts u).get v = if v ∈ g.successors u then counts.get v - 1 else counts.get v :=
  get_lower _ (g.nodup_successors u) counts v

/-- A vertex that has not been taken is pending for exactly its successors. -/
theorem length_pending_cons {taken : List (Fin n)} {u : Fin n} (hu : u ∉ taken) (v : Fin n) :
    (g.pending (u :: taken) v).length =
      if v ∈ g.successors u then (g.pending taken v).length - 1 else (g.pending taken v).length := by
  have hsplit : g.pending (u :: taken) v = (g.pending taken v).filter (· != u) := by
    simp only [pending, List.filter_filter]
    exact List.filter_congr fun w _ => by rw [Bool.eq_iff_iff]; simp
  have hnodup : (g.pending taken v).Nodup := (g.nodup_predecessors v).filter _
  have hmem : u ∈ g.pending taken v ↔ v ∈ g.successors u := by simp [pending, hu]
  rw [hsplit, ← hnodup.erase_eq_filter]
  split
  · rename_i he
    exact List.length_erase_of_mem (hmem.2 he)
  · rename_i he
    rw [List.erase_of_not_mem (fun h => he (hmem.1 h))]

theorem pending_eq_nil {taken : List (Fin n)} {v : Fin n} :
    g.pending taken v = [] ↔ ∀ u, g.Edge u v → u ∈ taken := by
  simp [pending, List.filter_eq_nil_iff]

/-! ## The loop -/

/-- What holds whenever the loop looks for the next vertex. -/
structure Taking (g : Graph n) (priority : Fin n → P) (counts : Vector Nat n)
    (taken ready waiting : List (Fin n)) : Prop where
  perm : (taken ++ (ready ++ waiting)).Perm (List.finRange n)
  counted : ∀ v, counts.get v = (g.pending taken v).length
  free : ∀ v ∈ ready, counts.get v = 0
  held : ∀ v ∈ waiting, counts.get v ≠ 0
  ascending : waiting.Sublist (List.finRange n)
  greedy : g.IsGreedy priority taken.reverse

namespace Taking

variable {counts : Vector Nat n} {taken ready waiting : List (Fin n)}

omit [DecidableLT P] in
theorem nodup (h : Taking g priority counts taken ready waiting) :
    (taken ++ (ready ++ waiting)).Nodup :=
  h.perm.nodup_iff.2 (List.nodup_finRange n)

omit [DecidableLT P] in
/-- The ready vertices are those that the greedy rule may take. -/
theorem mem_ready (h : Taking g priority counts taken ready waiting) (v : Fin n) :
    v ∈ ready ↔ g.IsReady taken.reverse v := by
  have hzero : counts.get v = 0 ↔ ∀ u, g.Edge u v → u ∈ taken := by
    rw [h.counted, List.length_eq_zero_iff, pending_eq_nil]
  have hdisjoint := List.disjoint_of_nodup_append h.nodup
  constructor
  · intro hv
    refine ⟨fun ht => hdisjoint (List.mem_reverse.1 ht) (List.mem_append_left _ hv), ?_⟩
    intro u he
    exact List.mem_reverse.2 (hzero.1 (h.free v hv) u he)
  · intro ⟨hleft, hreleased⟩
    have hcount := hzero.2 fun u he => List.mem_reverse.1 (hreleased u he)
    have hall := h.perm.mem_iff.2 (List.mem_finRange v)
    rcases List.mem_append.1 hall with ht | hrest
    · exact absurd (List.mem_reverse.2 ht) hleft
    · rcases List.mem_append.1 hrest with hr | hw
      · exact hr
      · exact absurd hcount (h.held v hw)

/-- Taking the first of the ready vertices keeps the invariant. -/
theorem step (h : Taking g priority counts taken ready waiting) {u : Fin n}
    (hu : first? priority ready = some u) :
    Taking g priority (g.release counts u) (u :: taken)
      (ready.erase u ++ Graph.free (g.release counts u) waiting)
      (Graph.held (g.release counts u) waiting) := by
  have hmem : u ∈ ready := mem_of_first? hu
  have hready : g.IsReady taken.reverse u := (h.mem_ready u).1 hmem
  have hleft : u ∉ taken := fun ht => hready.left (List.mem_reverse.2 ht)
  constructor
  · have hwaiting : (Graph.free (g.release counts u) waiting ++
        Graph.held (g.release counts u) waiting).Perm waiting :=
      List.filter_append_perm _ waiting
    calc u :: taken ++ (ready.erase u ++ Graph.free (g.release counts u) waiting ++
          Graph.held (g.release counts u) waiting)
        ~ u :: taken ++ (ready.erase u ++ waiting) := by
            rw [List.append_assoc]
            exact (hwaiting.append_left _).append_left _
      _ ~ taken ++ (u :: ready.erase u ++ waiting) := List.perm_middle.symm
      _ ~ taken ++ (ready ++ waiting) :=
            ((List.perm_cons_erase hmem).symm.append_right _).append_left _
      _ ~ List.finRange n := h.perm
  · intro v
    rw [get_release, length_pending_cons hleft, h.counted]
  · intro v hv
    rcases List.mem_append.1 hv with hv | hv
    · have hzero := h.free v (List.mem_of_mem_erase hv)
      rw [get_release, hzero]
      simp
    · exact (mem_free.1 hv).2
  · intro v hv
    exact (mem_held.1 hv).2
  · exact List.filter_sublist.trans h.ascending
  · rw [List.reverse_cons]
    exact h.greedy.concat ⟨hready, fun v hv => leads_of_first? hu v ((h.mem_ready v).2 hv)⟩

end Taking

/-- The vertices that are left when none is ready: each has a predecessor among them. -/
structure IsStuck (g : Graph n) (priority : Fin n → P) (stuck : List (Fin n)) : Prop where
  nonempty : stuck ≠ []
  ascending : stuck.Sublist (List.finRange n)
  held : ∀ v ∈ stuck, ∃ u ∈ stuck, g.Edge u v
  others : ∃ taken, (taken ++ stuck).Perm (List.finRange n) ∧ g.IsGreedy priority taken

theorem take_of_first? {counts : Vector Nat n} {taken ready waiting : List (Fin n)} {u : Fin n}
    (hu : first? priority ready = some u) :
    g.take priority counts taken ready waiting =
      g.take priority (g.release counts u) (u :: taken)
        (ready.erase u ++ free (g.release counts u) waiting)
        (held (g.release counts u) waiting) := by
  rw [take]
  split
  · rename_i hnone
    rw [hu] at hnone
    cases hnone
  · rename_i v hv
    rw [hu] at hv
    obtain rfl := Option.some.inj hv
    rfl

/-- The loop takes all vertices by the greedy rule, or stops at vertices that hold each other. -/
theorem take_cases {counts : Vector Nat n} {taken ready waiting : List (Fin n)}
    (h : Taking g priority counts taken ready waiting) :
    (∃ order, g.take priority counts taken ready waiting = .ok order ∧
      order.Perm (List.finRange n) ∧ g.IsGreedy priority order) ∨
    (∃ stuck, g.take priority counts taken ready waiting = .error stuck ∧
      g.IsStuck priority stuck) := by
  induction counts, taken, ready, waiting using take.induct g priority with
  | case1 counts taken ready waiting hnone hempty =>
    obtain rfl := first?_eq_none.1 hnone
    obtain rfl := List.isEmpty_iff.1 hempty
    left
    refine ⟨taken.reverse, ?_, ?_, h.greedy⟩
    · rw [take]
      simp [first?]
    · exact (List.reverse_perm taken).trans (by simpa using h.perm)
  | case2 counts taken ready waiting hnone hwaiting =>
    obtain rfl := first?_eq_none.1 hnone
    right
    refine ⟨waiting, ?_, fun hnil => hwaiting (by simp [hnil]), h.ascending, ?_, ?_⟩
    · rw [take]
      simp [first?, hwaiting]
    · intro v hv
      -- The count of a waiting vertex is positive, and no vertex is ready, so one waits for another.
      have hpos : (g.pending taken v).length ≠ 0 := h.counted v ▸ h.held v hv
      obtain ⟨u, hu⟩ := List.exists_mem_of_length_pos (Nat.pos_of_ne_zero hpos)
      obtain ⟨he, hleft⟩ : g.Edge u v ∧ u ∉ taken := by simpa [pending] using hu
      have hall := h.perm.mem_iff.2 (List.mem_finRange u)
      exact ⟨u, (List.mem_append.1 hall).resolve_left hleft, he⟩
    · refine ⟨taken.reverse, ?_, h.greedy⟩
      exact ((List.reverse_perm taken).append_right _).trans (by simpa using h.perm)
  | case3 counts taken ready waiting u hu left ih =>
    rw [take_of_first? hu]
    exact ih (h.step hu)

omit [DecidableLT P] in
theorem taking_start (g : Graph n) (priority : Fin n → P) :
    let counts := Vector.ofFn fun v => (g.predecessors v).length
    Taking g priority counts [] (Graph.free counts (List.finRange n))
      (Graph.held counts (List.finRange n)) where
  perm := List.filter_append_perm _ _
  counted := by
    intro v
    have hcount : (Vector.ofFn fun v => (g.predecessors v).length).get v =
        (g.predecessors v).length := Vector.getElem_ofFn v.isLt
    rw [hcount]
    simp [pending]
  free := by
    intro v hv
    exact (mem_free.1 hv).2
  held := by
    intro v hv
    exact (mem_held.1 hv).2
  ascending := List.filter_sublist
  greedy := isGreedy_nil

theorem order_cases (g : Graph n) (priority : Fin n → P) :
    (∃ order, g.order priority = .ok order ∧ g.IsTopological order ∧
      g.IsGreedy priority order) ∨
    (∃ stuck, g.order priority = .error stuck ∧ g.IsStuck priority stuck) := by
  rcases take_cases (taking_start g priority) with ⟨order, hok, hperm, hgreedy⟩ | hstuck
  · exact .inl ⟨order, hok, hgreedy.isTopological hperm, hgreedy⟩
  · exact .inr hstuck

/-- An acyclic graph is ordered, and its order is the greedy one. -/
theorem order_of_acyclic (hg : Acyclic g.Edge) (priority : Fin n → P) :
    ∃ order, g.order priority = .ok order ∧ g.IsTopological order ∧ g.IsGreedy priority order := by
  rcases order_cases g priority with hok | ⟨stuck, -, hstuck⟩
  · exact hok
  · obtain ⟨v, hv, hsource⟩ := hg.exists_source hstuck.nonempty
    obtain ⟨u, hu, he⟩ := hstuck.held v hv
    exact absurd he (hsource u hu)

/-- A graph that is not acyclic is not ordered. -/
theorem order_of_not_acyclic (hg : ¬ Acyclic g.Edge) (priority : Fin n → P) :
    ∃ stuck, g.order priority = .error stuck := by
  rcases order_cases g priority with ⟨order, -, htopological, -⟩ | ⟨stuck, herror, -⟩
  · exact absurd htopological.acyclic hg
  · exact ⟨stuck, herror⟩

end Graph

end ClientGen
