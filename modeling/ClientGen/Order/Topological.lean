/-!
# Ordering the vertices of a finite graph along its edges

A vertex is ready once all that lead to it have been taken; of those that are ready the one with the
least priority is taken next, and of equal ones the first. Vertices that never become ready lie on a
cycle or behind one.
-/

namespace ClientGen

/-- A graph on the numbers below `n`: whether an edge leads from one vertex to another. -/
abbrev Graph (n : Nat) := Fin n → Fin n → Bool

namespace Graph

variable {n : Nat}

/-- The vertices that an edge leads to from `u`, in ascending order. -/
def successors (g : Graph n) (u : Fin n) : List (Fin n) := (List.finRange n).filter (g u)

/-- The vertices from which an edge leads to `v`, in ascending order. -/
def predecessors (g : Graph n) (v : Fin n) : List (Fin n) := (List.finRange n).filter (g · v)

section Order

variable {P : Type} [LT P] [DecidableLT P]

/-- Whether `a` comes before `b`: by priority, then by number. -/
def comesBefore (priority : Fin n → P) (a b : Fin n) : Bool :=
  priority a < priority b || (!(priority b < priority a) && a < b)

def first? (priority : Fin n → P) : List (Fin n) → Option (Fin n)
  | [] => none
  | a :: rest => match first? priority rest with
    | none => some a
    | some b => some (if comesBefore priority b a then b else a)

theorem mem_of_first? {priority : Fin n → P} {l : List (Fin n)} {a : Fin n}
    (h : first? priority l = some a) : a ∈ l := by
  induction l generalizing a with
  | nil => simp [first?] at h
  | cons b rest ih =>
    simp only [first?] at h
    split at h
    · cases h; simp
    · rename_i c hc
      cases h
      split
      · exact List.mem_cons_of_mem _ (ih hc)
      · simp

/-- The counts after a vertex has been taken: one less for each of its successors. -/
def release (g : Graph n) (counts : Vector Nat n) (u : Fin n) : Vector Nat n :=
  (g.successors u).foldl (fun counts (v : Fin n) => counts.set v.val (counts[v] - 1) v.isLt) counts

/-- The vertices that no edge from a vertex not taken leads to. -/
def free (counts : Vector Nat n) (l : List (Fin n)) : List (Fin n) := l.filter (counts[·] == 0)

/-- The vertices that some edge from a vertex not taken leads to. -/
def held (counts : Vector Nat n) (l : List (Fin n)) : List (Fin n) := l.filter (counts[·] != 0)

theorem length_free_add_held (counts : Vector Nat n) (l : List (Fin n)) :
    (free counts l).length + (held counts l).length = l.length := by
  rw [free, held, ← List.countP_eq_length_filter, ← List.countP_eq_length_filter,
    List.length_eq_countP_add_countP (counts[·] == 0)]
  simp only [bne, Bool.not_eq_true, Bool.decide_eq_false]

/-- Takes vertices as long as one is ready. `counts` are, for each vertex, the edges that lead to it
from vertices not taken; `ready` and `waiting` are the vertices not taken, those without such an
edge and the others. The result is the order of all vertices, or those that never become ready. -/
def take (g : Graph n) (priority : Fin n → P) (counts : Vector Nat n)
    (taken ready waiting : List (Fin n)) : Except (List (Fin n)) (List (Fin n)) :=
  match _h : first? priority ready with
  | none => if waiting.isEmpty then .ok taken.reverse else .error waiting
  | some u =>
    let left := g.release counts u
    g.take priority left (u :: taken) (ready.erase u ++ free left waiting) (held left waiting)
termination_by ready.length + waiting.length
decreasing_by
  have hu := mem_of_first? _h
  have hpos := List.length_pos_of_mem hu
  have := length_free_add_held (g.release counts u) waiting
  rw [List.length_append, List.length_erase_of_mem hu]
  omega

/-- The order of the vertices along the edges, or the vertices on a cycle or behind one. -/
def order (g : Graph n) (priority : Fin n → P) : Except (List (Fin n)) (List (Fin n)) :=
  let counts := Vector.ofFn fun v => (g.predecessors v).length
  g.take priority counts [] (free counts (List.finRange n)) (held counts (List.finRange n))

end Order

/-- For each vertex the least number among its own and those it leads to, for vertices in an order
along the edges. -/
def leastReached (g : Graph n) (order : List (Fin n)) : Vector Nat n :=
  order.foldr
    (fun (u : Fin n) least =>
      least.set u.val ((g.successors u).foldl (fun k v => min k least[v]) least[u]) u.isLt)
    (Vector.ofFn fun v => v.val)

end Graph

end ClientGen
