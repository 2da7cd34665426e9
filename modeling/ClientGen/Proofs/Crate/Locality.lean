import ClientGen.Proofs.Crate.Outline
import ClientGen.Proofs.Model.Insertion

/-!
# Only what a service needs matters

The part of a model that a service needs has an outline, the model without documentation. If another
model agrees with the model on this part, it has the same outline there; so it gives the same
results for the service. All lookups stay inside the part, those of shapes that are not defined
included. Hence a model can grow by definitions that a service does not need, and nothing changes
for it.
-/

namespace ClientGen

namespace Model

/-- No reference leaves the shapes `P` and the operations `Q`. -/
def IsPart (m : Model) (P Q : ShapeId → Prop) : Prop := m.undocumented.IsOutline m P Q

variable {m m' : Model} {P Q : ShapeId → Prop}

/-- What a service needs, with the operations that it lists, is a part. -/
theorem isPart_needs (m : Model) (s : Service) : m.IsPart (m.Needs s) (· ∈ s.operations) where
  shape := fun id _ => m.shape?_undocumented id
  target := fun _ _ hid hs _ he => .edge hid hs he
  operation := fun op _ => m.operation?_undocumented op
  role := fun _ o hop ho _ hio => .role ⟨hop, o, ho, hio⟩

/-- The outline of a part is also one for a model that agrees on it. -/
theorem AgreesOn.isOutline (h : m.AgreesOn m' P Q) (hm : m.IsPart P Q) :
    m.undocumented.IsOutline m' P Q where
  shape := fun id hid => by rw [h.shape id hid, hm.shape id hid]
  target := fun id s hid hs => hm.target id s hid (h.shape id hid ▸ hs)
  operation := fun op hop => by rw [h.operation op hop, hm.operation op hop]
  role := fun op o hop ho => hm.role op o hop (h.operation op hop ▸ ho)

namespace AgreesOn

theorem isWithin (h : m.AgreesOn m' P Q) {s : Shape} (hs : m.IsWithin P s) : m'.IsWithin P s :=
  ⟨hs.mem, (h.shape s.id hs.mem).trans hs.shape⟩

theorem resolveShape (h : m.AgreesOn m' P Q) {id : ShapeId} (hid : P id) (from_ : Referrer) :
    m'.resolveShape id from_ = m.resolveShape id from_ := by
  unfold Model.resolveShape
  rw [h.shape id hid]

/-! ## The module of the types -/

section

variable (h : m.AgreesOn m' P Q) (hm : m.IsPart P Q)

include h hm

theorem memberSymbol {s : Shape} (hs : m.IsWithin P s) {e : Member} (he : e ∈ s.members) :
    m'.memberSymbol modelNamespace s.id e = m.memberSymbol modelNamespace s.id e := by
  have htarget : P e.target := hm.target_of_mem_members hs he
  exact ((h.isOutline hm).memberSymbol _ hs.mem htarget).symm.trans
    (hm.memberSymbol _ hs.mem htarget)

theorem structureItem {s : Shape} (hs : m.IsWithin P s) :
    m'.structureItem s = m.structureItem s := by
  unfold Model.structureItem
  refine congrArg (· >>= _) (mapM_congr_of_mem fun e he => ?_)
  rw [h.memberSymbol hm hs he]

theorem unionItem {s : Shape} (hs : m.IsWithin P s) : m'.unionItem s = m.unionItem s := by
  unfold Model.unionItem
  refine congrArg (· >>= _) (mapM_congr_of_mem fun e he => ?_)
  rw [h.memberSymbol hm hs he]

theorem structureCodec {s : Shape} (hs : m.IsWithin P s) :
    m'.structureCodec s = m.structureCodec s :=
  ((h.isOutline hm).structureCodec (h.isWithin hs)).symm.trans (hm.structureCodec hs)

theorem unionCodec {s : Shape} (hs : m.IsWithin P s) : m'.unionCodec s = m.unionCodec s :=
  ((h.isOutline hm).unionCodec (h.isWithin hs)).symm.trans (hm.unionCodec hs)

theorem shapeItems {id : ShapeId} (hid : P id) : m'.shapeItems id = m.shapeItems id := by
  unfold Model.shapeItems
  rw [h.resolveShape hid]
  refine bind_congr_of_ok fun s hs => ?_
  have hwithin : m.IsWithin P s := isWithin_of_shape? hid (resolveShape_eq_ok.1 hs)
  have hsymbol : m'.symbol modelNamespace id = m.symbol modelNamespace id :=
    ((h.isOutline hm).symbol _ hid).symm.trans (hm.symbol _ hid)
  rw [h.structureItem hm hwithin, h.unionItem hm hwithin, h.structureCodec hm hwithin,
    h.unionCodec hm hwithin, hsymbol]

theorem typesModule {ids : List ShapeId} (hids : ∀ id ∈ ids, P id) :
    m'.typesModule ids = m.typesModule ids := by
  unfold Model.typesModule
  rw [mapM_congr_of_mem fun id hid => h.shapeItems hm (hids id hid)]

end

/-! ## The module of the client -/

theorem roleShape (h : m.AgreesOn m' P Q) (op : ShapeId) (role : Role) {io : Option ShapeId}
    (hio : ∀ id, io = some id → P id) : m'.roleShape op role io = m.roleShape op role io := by
  cases io with
  | none => rfl
  | some id => exact congrArg (·.map some) (h.resolveShape (hio id rfl) _)

section

variable (h : m.AgreesOn m' P Q) (hm : m.IsPart P Q)

include h hm

theorem operationShapes (s : Service) {op : ShapeId} (hop : Q op) :
    m'.operationShapes s op = m.operationShapes s op := by
  unfold Model.operationShapes
  rw [h.operation op hop]
  cases ho : m.operation? op with
  | none => rfl
  | some o =>
    dsimp only
    rw [h.roleShape op .input fun id hid => hm.role op o hop ho id (.inl hid),
      h.roleShape op .output fun id hid => hm.role op o hop ho id (.inr hid)]

theorem methodSignature {o : OperationShapes} (ho : o.IsWithin m P) :
    m'.methodSignature o = m.methodSignature o := by
  have ho' : o.IsWithin m' P :=
    ⟨fun s hs => h.isWithin (ho.input s hs), fun s hs => h.isWithin (ho.output s hs)⟩
  exact ((h.isOutline hm).methodSignature ho').symm.trans (hm.methodSignature ho)

theorem methodItem {o : OperationShapes} (ho : o.IsWithin m P) (p : Protocol) (r : Registry) :
    m'.methodItem p r o = m.methodItem p r o := by
  have ho' : o.IsWithin m' P :=
    ⟨fun s hs => h.isWithin (ho.input s hs), fun s hs => h.isWithin (ho.output s hs)⟩
  exact ((h.isOutline hm).methodItem ho' p r).symm.trans (hm.methodItem ho p r)

theorem clientModule {s : Service} (hs : ∀ op ∈ s.operations, Q op) (p : Protocol) :
    m'.clientModule s p = m.clientModule s p := by
  unfold Model.clientModule
  refine bind_congr_of_ok fun registry _ => ?_
  rw [mapM_congr_of_mem fun op hop => h.operationShapes hm s (hs op hop)]
  refine bind_congr_of_ok fun operations hok => ?_
  have hwithin : ∀ o ∈ operations, o.IsWithin m P := fun o ho => by
    obtain ⟨op, hop, hfound⟩ := exists_of_mem_results hok o ho
    exact hm.isWithin_of_operationShapes (hs op hop) hfound
  have hsignatures : ∀ o ∈ operations, (m'.methodSignature o >>= fun signature =>
      Except.ok (⟨o.operation.documentation, signature⟩ : Method)) =
      m.methodSignature o >>= fun signature => .ok ⟨o.operation.documentation, signature⟩ :=
    fun o ho => by rw [h.methodSignature hm (hwithin o ho)]
  have hmethods : operations.mapM (m'.methodItem p registry) =
      operations.mapM (m.methodItem p registry) :=
    mapM_congr_of_mem fun o ho => h.methodItem hm (hwithin o ho) p registry
  rw [hmethods]
  exact congrArg (· >>= _) (mapM_congr_of_mem hsignatures)

end

end AgreesOn

/-- Where shapes that a service does not need, operations that it does not list and services are
inserted, the checks, the walk over its shapes and the modules of its types and of its client have
the same results for the service as before. -/
theorem results_insertAll {s : Service} (hs : m.service? s.id = some s) {shapes : List Shape}
    {operations : List Operation} {services : List Service}
    (hshapes : ∀ t ∈ shapes, ¬ m.Needs s t.id) (hoperations : ∀ o ∈ operations, o.id ∉ s.operations)
    (hinsert : m.insertAll shapes operations services = .ok m') :
    m'.service? s.id = some s ∧ m'.validate s.id = m.validate s.id ∧
      m'.reachable s.id = m.reachable s.id ∧
      (m'.reachable s.id >>= m'.typesModule) = (m.reachable s.id >>= m.typesModule) ∧
      ∀ p, m'.clientModule s p = m.clientModule s p := by
  have h : m.AgreesOn m' (m.Needs s) (· ∈ s.operations) :=
    agreesOn_insertAll hshapes hoperations hinsert
  have hm : m.IsPart (m.Needs s) (· ∈ s.operations) := m.isPart_needs s
  have hm' := h.isOutline hm
  have hs' : m'.service? s.id = some s := h.service s.id s hs
  have houtline : m.undocumented.service? s.id = some s.undocumented := by
    rw [service?_undocumented, hs]
    rfl
  have hservice : IsOutline.HasService m.undocumented m (· ∈ s.operations) s :=
    ⟨hs, houtline, fun _ hop => hop⟩
  have hservice' : IsOutline.HasService m.undocumented m' (· ∈ s.operations) s :=
    ⟨hs', houtline, fun _ hop => hop⟩
  have hreachable : m'.reachable s.id = m.reachable s.id :=
    (hm'.reachable hservice').symm.trans (hm.reachable hservice)
  refine ⟨hs', (hm'.validate hservice').symm.trans (hm.validate hservice), hreachable, ?_,
    h.clientModule hm fun _ hop => hop⟩
  rw [hreachable]
  exact bind_congr_of_ok fun ids hids => h.typesModule hm (hm.mem_of_reachable hservice hids)

/-- A shape that holds what the service needs, an operation that uses it and a service that lists
the operation change nothing for the service. -/
theorem results_insertAll_wrapper :
    let text : Shape := ⟨⟨"store", "Text"⟩, .primitive .string, []⟩
    let input : Shape := ⟨⟨"store", "Input"⟩, .structure [⟨"key", text.id, true, []⟩], []⟩
    let put : Operation := ⟨⟨"store", "Put"⟩, some input.id, none, none, none⟩
    let store : Service := ⟨⟨"store", "Store"⟩, "1", [put.id], none, none⟩
    let m : Model := ⟨⟨[input, text], by decide⟩, ⟨[put], by decide⟩, ⟨[store], by decide⟩⟩
    let wrapper : Shape := ⟨⟨"archive", "Wrapper"⟩, .structure [⟨"inner", input.id, true, []⟩], []⟩
    let keep : Operation := ⟨⟨"archive", "Keep"⟩, some wrapper.id, none, none, none⟩
    let archive : Service := ⟨⟨"archive", "Archive"⟩, "1", [keep.id], none, none⟩
    let m' : Model := ⟨⟨[wrapper, input, text], by decide⟩, ⟨[keep, put], by decide⟩,
      ⟨[archive, store], by decide⟩⟩
    m.service? store.id = some store ∧ m.insertAll [wrapper] [keep] [archive] = .ok m' ∧
      (m'.service? store.id = some store ∧ m'.validate store.id = m.validate store.id ∧
        m'.reachable store.id = m.reachable store.id ∧
        (m'.reachable store.id >>= m'.typesModule) = (m.reachable store.id >>= m.typesModule) ∧
        ∀ p, m'.clientModule store p = m.clientModule store p) := by
  intro text input put store m wrapper keep archive m'
  have hservice : m.service? store.id = some store := by decide
  have hinsert : m.insertAll [wrapper] [keep] [archive] = .ok m' := by decide
  have hneeds : ∀ id, m.Needs store id → id = input.id ∨ id = text.id := by
    intro id hid
    induction hid with
    | role hrole =>
      obtain ⟨hop, o, ho, hio⟩ := hrole
      obtain rfl := List.mem_singleton.1 hop
      obtain rfl : put = o := Option.some.inj ho
      rcases hio with hio | hio
      · exact .inl (Option.some.inj hio).symm
      · cases hio
    | edge _ ht he ih =>
      rcases ih with rfl | rfl
      · obtain rfl := Option.some.inj ht
        obtain rfl := List.mem_singleton.1 he
        exact .inr rfl
      · obtain rfl := Option.some.inj ht
        cases he
  refine ⟨hservice, hinsert, results_insertAll hservice (fun t ht hid => ?_) (by decide) hinsert⟩
  obtain rfl := List.mem_singleton.1 ht
  rcases hneeds _ hid with heq | heq <;> exact absurd heq (by decide)

end Model

end ClientGen
