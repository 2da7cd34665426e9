import ClientGen.Proofs.Order.Stuck

/-!
# Every graph is ordered or has a closed walk

The loop that orders the vertices of a graph takes one away from the count of a vertex for each edge
from a vertex it takes. Natural numbers would hide a count that has nothing left to take away, so
the same loop is written here with subtractions that fail there. It gives the same result: in each
state of the loop the vertex to be taken is one of those that the counts of its successors stand
for. With this, and with what the loop takes and what it is left with, its answer is settled for
every graph and every priority.
-/

namespace ClientGen

namespace Graph

variable {n : Nat} {g : Graph n}

/-! ## Counts that cannot fall below zero -/

/-- The counts with one less for a vertex, unless there is none left. -/
def lower? (counts : Vector Nat n) (v : Fin n) : Option (Vector Nat n) :=
  if counts.get v = 0 then none else some (counts.set v.val (counts.get v - 1) v.isLt)

/-- The counts after a vertex has been taken, one less for each of its successors, unless one of
these has none left. -/
def release? (g : Graph n) (counts : Vector Nat n) (u : Fin n) : Option (Vector Nat n) :=
  (g.successors u).foldlM lower? counts

theorem foldlM_lower? {l : List (Fin n)} (hl : l.Nodup) {counts : Vector Nat n}
    (h : ∀ v ∈ l, counts.get v ≠ 0) :
    l.foldlM lower? counts = some (l.foldl
      (fun counts (v : Fin n) => counts.set v.val (counts.get v - 1) v.isLt) counts) := by
  induction l generalizing counts with
  | nil => rfl
  | cons v l ih =>
    obtain ⟨hv, hl⟩ := List.nodup_cons.1 hl
    have hfirst : lower? counts v = some (counts.set v.val (counts.get v - 1) v.isLt) :=
      if_neg (h v List.mem_cons_self)
    rw [List.foldlM_cons, hfirst, List.foldl_cons]
    -- The vertices differ, so that the counts of the others are what they were.
    refine ih hl fun w hw => ?_
    rw [get_set_of_ne _ (ne_of_mem_of_not_mem hw hv).symm]
    exact h w (List.mem_cons_of_mem _ hw)

section Order

variable {P : Type} [LT P] [DecidableLT P]

/-- Takes vertices like `take`, and fails where a count would fall below zero. -/
def take? (g : Graph n) (priority : Fin n → P) (counts : Vector Nat n)
    (taken ready waiting : List (Fin n)) : Option (Except (List (Fin n)) (List (Fin n))) :=
  match _h : first? priority ready with
  | none => some (if waiting.isEmpty then .ok taken.reverse else .error waiting)
  | some u => do
    let left ← g.release? counts u
    g.take? priority left (u :: taken) (ready.erase u ++ free left waiting) (held left waiting)
termination_by ready.length + waiting.length
decreasing_by
  have hu := mem_of_first? _h
  have hpos := List.length_pos_of_mem hu
  have := length_free_add_held left waiting
  rw [List.length_append, List.length_erase_of_mem hu]
  omega

/-- The order of the vertices like `order`, with subtractions that can fail. -/
def order? (g : Graph n) (priority : Fin n → P) : Option (Except (List (Fin n)) (List (Fin n))) :=
  let counts := Vector.ofFn fun v => (g.predecessors v).length
  g.take? priority counts [] (free counts (List.finRange n)) (held counts (List.finRange n))

end Order

variable {P : Type} [LinearOrder P] [DecidableLT P] {priority : Fin n → P}

omit [DecidableLT P] in
/-- A vertex that is ready is pending for each of its successors, which so have a count. -/
theorem Taking.release?_eq {counts : Vector Nat n} {taken ready waiting : List (Fin n)}
    (h : Taking g priority counts taken ready waiting) {u : Fin n} (hu : u ∈ ready) :
    g.release? counts u = some (g.release counts u) := by
  have hleft : u ∉ taken := fun ht =>
    List.disjoint_of_nodup_append h.nodup ht (List.mem_append_left _ hu)
  refine foldlM_lower? (g.nodup_successors u) fun v hv => ?_
  have hpending : u ∈ g.pending taken v := by simpa [pending, hleft] using hv
  rw [h.counted]
  exact (List.length_pos_of_mem hpending).ne'

/-- While the counts are right no subtraction fails: with checked counts the order goes on as
without. -/
theorem Taking.take?_eq {counts : Vector Nat n} {taken ready waiting : List (Fin n)}
    (h : Taking g priority counts taken ready waiting) :
    g.take? priority counts taken ready waiting =
      some (g.take priority counts taken ready waiting) := by
  induction counts, taken, ready, waiting using take.induct g priority with
  | case1 counts taken ready waiting hnone hempty =>
    obtain rfl := first?_eq_none.1 hnone
    rw [take?, take]
    simp [first?, hempty]
  | case2 counts taken ready waiting hnone hwaiting =>
    obtain rfl := first?_eq_none.1 hnone
    rw [take?, take]
    simp [first?, hwaiting]
  | case3 counts taken ready waiting u hu left ih =>
    rw [take_of_first? hu, ← ih (h.step hu), take?]
    split
    · rename_i hnone
      rw [hu] at hnone
      cases hnone
    · rename_i v hv
      rw [hu] at hv
      obtain rfl := Option.some.inj hv
      rw [h.release?_eq (mem_of_first? hu)]
      rfl

/-- No count falls below zero. -/
theorem order?_eq (g : Graph n) (priority : Fin n → P) :
    g.order? priority = some (g.order priority) :=
  (taking_start g priority).take?_eq

/-! ## The two results -/

omit [DecidableLT P] in
theorem IsStuck.pairwise {stuck : List (Fin n)} (h : g.IsStuck priority stuck) :
    stuck.Pairwise (· < ·) :=
  (List.pairwise_lt_finRange n).sublist h.ascending

/-- The vertices of a graph are ordered along its edges exactly if no walk is closed. Otherwise the
loop gives those that lie on a closed walk or behind one, in ascending order, and no others. In both
cases no count has fallen below zero. -/
theorem order_ok_iff_acyclic (g : Graph n) (priority : Fin n → P) :
    (Acyclic g.Edge ↔ ∃ order, g.order priority = .ok order ∧ g.IsTopological order) ∧
    (¬ Acyclic g.Edge ↔ ∃ stuck, g.order priority = .error stuck ∧
      stuck.Pairwise (· < ·) ∧ ∀ v, v ∈ stuck ↔ IsBehindCycle g.Edge v) ∧
    g.order? priority = some (g.order priority) := by
  rcases order_cases g priority with ⟨order, hok, htopological, -⟩ | ⟨stuck, herror, hstuck⟩
  · have hacyclic := htopological.acyclic
    refine ⟨⟨fun _ => ⟨order, hok, htopological⟩, fun _ => hacyclic⟩, ?_, order?_eq g priority⟩
    refine ⟨fun hcyclic => absurd hacyclic hcyclic, ?_⟩
    rintro ⟨stuck, herror, -⟩
    rw [hok] at herror
    cases herror
  · have hcyclic : ¬ Acyclic g.Edge := by
      obtain ⟨v, hv⟩ := List.exists_mem_of_ne_nil stuck hstuck.nonempty
      obtain ⟨w, hw, -⟩ := (hstuck.mem_iff v).1 hv
      exact fun hacyclic => hacyclic w hw
    refine ⟨⟨fun hacyclic => absurd hacyclic hcyclic, ?_⟩,
      ⟨fun _ => ⟨stuck, herror, hstuck.pairwise, hstuck.mem_iff⟩, fun _ => hcyclic⟩,
      order?_eq g priority⟩
    rintro ⟨order, hok, -⟩
    rw [hok] at herror
    cases herror

end Graph

end ClientGen
