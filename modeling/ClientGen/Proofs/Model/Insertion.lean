import ClientGen.Model.Basic
import ClientGen.Proofs.Results

/-!
# What insertions leave as it was

A definition that is inserted has an identifier that nothing had before. So what was defined stays
defined, and only the identifiers of what is inserted have another meaning than before.
-/

namespace ClientGen

open Identified (idOf)

/-! ## Catalogs -/

namespace Catalog

variable {α : Type} [Identified α] {a : α}

theorem find?_of_insertSorted? {p : α → Bool} (hp : p a = false) {l l' : List α}
    (h : insertSorted? a l = some l') : l'.find? p = l.find? p := by
  induction l generalizing l' with
  | nil =>
    obtain rfl := Option.some.inj h
    rw [List.find?_cons, hp]
  | cons b rest ih =>
    rw [insertSorted?] at h
    split at h
    · obtain rfl := Option.some.inj h
      rw [List.find?_cons, hp]
    · split at h
      · cases h
      · obtain ⟨l, hl, rfl⟩ := Option.map_eq_some_iff.1 h
        rw [List.find?_cons, List.find?_cons, ih hl]

/-- The identifier of what is inserted was free. -/
theorem ne_of_insertSorted? {l l' : List α} (hl : l.Pairwise fun a b => idOf a < idOf b)
    (h : insertSorted? a l = some l') : ∀ b ∈ l, idOf a ≠ idOf b := by
  induction l generalizing l' with
  | nil =>
    intro b hb
    cases hb
  | cons b rest ih =>
    rw [List.pairwise_cons] at hl
    rw [insertSorted?] at h
    split at h
    · rename_i hlt
      intro x hx heq
      rcases List.mem_cons.1 hx with rfl | hx
      · exact ShapeId.lt_irrefl _ (heq ▸ hlt)
      · exact ShapeId.lt_irrefl _ (heq ▸ ShapeId.lt_trans hlt (hl.1 x hx))
    · split at h
      · cases h
      · rename_i hne
        obtain ⟨l, hrest, rfl⟩ := Option.map_eq_some_iff.1 h
        intro x hx
        rcases List.mem_cons.1 hx with rfl | hx
        · exact hne
        · exact ih hl.2 hrest x hx

theorem insertSorted?_of_insert? {c c' : Catalog α} (h : c.insert? a = some c') :
    insertSorted? a c.entries = some c'.entries := by
  unfold insert? at h
  split at h
  · rename_i entries hentries
    obtain rfl := Option.some.inj h
    exact hentries
  · cases h

/-- An insertion defines its own identifier and no other. -/
theorem get?_of_insert? {c c' : Catalog α} (h : c.insert? a = some c') {id : ShapeId}
    (hid : idOf a ≠ id) : c'.get? id = c.get? id :=
  find?_of_insertSorted? (p := fun x => idOf x = id) (decide_eq_false hid)
    (insertSorted?_of_insert? h)

/-- What is defined stays defined. -/
theorem get?_eq_some_of_insert? {c c' : Catalog α} (h : c.insert? a = some c') {id : ShapeId}
    {x : α} (hx : c.get? id = some x) : c'.get? id = some x := by
  have hid : idOf x = id :=
    of_decide_eq_true (List.find?_some (p := fun x => decide (idOf x = id)) hx)
  have hne : idOf a ≠ idOf x := ne_of_insertSorted? c.sorted (insertSorted?_of_insert? h) x
    (List.mem_of_find?_eq_some hx)
  rw [get?_of_insert? h (hid ▸ hne), hx]

end Catalog

/-! ## Models -/

namespace Model

/-- `m'` has the shapes `P` and the operations `Q` exactly as `m` has them, and all services of `m`.
-/
structure AgreesOn (m m' : Model) (P Q : ShapeId → Prop) : Prop where
  shape : ∀ id, P id → m'.shape? id = m.shape? id
  operation : ∀ op, Q op → m'.operation? op = m.operation? op
  service : ∀ id s, m.service? id = some s → m'.service? id = some s

variable {m m' : Model} {P Q : ShapeId → Prop}

theorem AgreesOn.refl (m : Model) : m.AgreesOn m P Q :=
  ⟨fun _ _ => rfl, fun _ _ => rfl, fun _ _ hs => hs⟩

theorem AgreesOn.trans {m'' : Model} (h : m.AgreesOn m' P Q) (h' : m'.AgreesOn m'' P Q) :
    m.AgreesOn m'' P Q where
  shape id hid := (h'.shape id hid).trans (h.shape id hid)
  operation op hop := (h'.operation op hop).trans (h.operation op hop)
  service id s hs := h'.service id s (h.service id s hs)

theorem define_eq_ok {α : Type} [Identified α] {c c' : Catalog α} {a : α}
    (h : define c a = .ok c') : c.insert? a = some c' := by
  unfold define at h
  split at h
  · rename_i hc
    rw [hc, Except.ok.inj h]
  · cases h

/-- A shape outside the part changes nothing in it. -/
theorem agreesOn_insertShape {t : Shape} (ht : ¬ P t.id) (h : m.insertShape t = .ok m') :
    m.AgreesOn m' P Q := by
  obtain ⟨shapes, hshapes, rfl⟩ := map_eq_ok.1 h
  refine ⟨fun id hid => ?_, fun _ _ => rfl, fun _ _ hs => hs⟩
  exact Catalog.get?_of_insert? (define_eq_ok hshapes) fun heq => ht (heq.symm ▸ hid : P (idOf t))

theorem agreesOn_insertOperation {o : Operation} (ho : ¬ Q o.id)
    (h : m.insertOperation o = .ok m') : m.AgreesOn m' P Q := by
  obtain ⟨operations, hoperations, rfl⟩ := map_eq_ok.1 h
  refine ⟨fun _ _ => rfl, fun op hop => ?_, fun _ _ hs => hs⟩
  exact Catalog.get?_of_insert? (define_eq_ok hoperations) fun heq =>
    ho (heq.symm ▸ hop : Q (idOf o))

theorem agreesOn_insertService {s : Service} (h : m.insertService s = .ok m') :
    m.AgreesOn m' P Q := by
  obtain ⟨services, hservices, rfl⟩ := map_eq_ok.1 h
  refine ⟨fun _ _ => rfl, fun _ _ => rfl, fun id s hs => ?_⟩
  exact Catalog.get?_eq_some_of_insert? (define_eq_ok hservices) hs

/-- Shapes and operations outside the part, and services, change nothing in the part. -/
theorem agreesOn_insertAll {shapes : List Shape} {operations : List Operation}
    {services : List Service} (hshapes : ∀ t ∈ shapes, ¬ P t.id)
    (hoperations : ∀ o ∈ operations, ¬ Q o.id)
    (h : m.insertAll shapes operations services = .ok m') : m.AgreesOn m' P Q := by
  obtain ⟨first, hfirst, h⟩ := bind_eq_ok.1 h
  obtain ⟨second, hsecond, hthird⟩ := bind_eq_ok.1 h
  have htrans : ∀ a b c : Model, a.AgreesOn b P Q → b.AgreesOn c P Q → a.AgreesOn c P Q :=
    fun _ _ _ => .trans
  have hone : m.AgreesOn first P Q := foldlM_ok_rel .refl htrans
    (fun t ht _ _ => agreesOn_insertShape (hshapes t ht)) hfirst
  have htwo : first.AgreesOn second P Q := foldlM_ok_rel .refl htrans
    (fun o ho _ _ => agreesOn_insertOperation (hoperations o ho)) hsecond
  exact hone.trans (htwo.trans
    (foldlM_ok_rel .refl htrans (fun _ _ _ _ => agreesOn_insertService) hthird))

end Model

end ClientGen
