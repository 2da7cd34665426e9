import ClientGen.Crate.Client
import ClientGen.Crate.Types
import ClientGen.Proofs.Code.Documentation
import ClientGen.Proofs.Protocol.Outline

/-!
# Modules in an outline

The modules of the types and of the client take documentation from the model to stand before types,
fields, variants and methods. But for this, they are the same in an outline.
-/

namespace ClientGen

/-! ## Operations without documentation -/

/-- The operation and its shapes without their documentation. -/
def OperationShapes.undocumented (o : OperationShapes) : OperationShapes :=
  ⟨o.operation.undocumented, o.input.map .undocumented, o.output.map .undocumented⟩

/-- The input and the output of an operation, if it has them, are shapes of the part. -/
structure OperationShapes.IsWithin (o : OperationShapes) (m : Model) (P : ShapeId → Prop) :
    Prop where
  input : ∀ s, o.input = some s → m.IsWithin P s
  output : ∀ s, o.output = some s → m.IsWithin P s

theorem bindResponse_undocumented (output : Option Shape) :
    Model.bindResponse (output.map .undocumented) = Model.bindResponse output := by
  cases output <;> rfl

namespace Model.IsOutline

variable {k m : Model} {P Q : ShapeId → Prop}

/-! ## The module of the types -/

theorem structureItem (h : k.IsOutline m P Q) {s : Shape} (hs : m.IsWithin P s) :
    (k.structureItem s.undocumented).map Item.undocumented =
      (m.structureItem s).map Item.undocumented := by
  refine bind_map_congr (List.map StructField.undocumented) ?_ fun fields fields' hfields => ?_
  · rw [Shape.members_undocumented, map_mapM, map_mapM]
    refine mapM_map_congr fun e he => ?_
    rw [Shape.id_undocumented, h.memberSymbol _ hs.mem (h.target_of_mem_members hs he)]
    cases m.memberSymbol modelNamespace s.id e <;> rfl
  · change Except.ok (Item.struct _ _ _ (fields.map _)) = .ok (.struct _ _ _ (fields'.map _))
    rw [hfields]
    rfl

theorem unionItem (h : k.IsOutline m P Q) {s : Shape} (hs : m.IsWithin P s) :
    (k.unionItem s.undocumented).map Item.undocumented =
      (m.unionItem s).map Item.undocumented := by
  refine bind_map_congr (List.map EnumVariant.undocumented) ?_
    fun variants variants' hvariants => ?_
  · rw [Shape.members_undocumented, map_mapM, map_mapM]
    refine mapM_map_congr fun e he => ?_
    rw [Shape.id_undocumented, h.memberSymbol _ hs.mem (h.target_of_mem_members hs he)]
    cases m.memberSymbol modelNamespace s.id e <;> rfl
  · change Except.ok (Item.enum _ _ _ (List.map _ (variants ++ _))) =
      .ok (.enum _ _ _ (List.map _ (variants' ++ _)))
    rw [List.map_append, List.map_append, hvariants]
    rfl

/-- The items of a structure or union are the same but for the documentation of its type. -/
theorem recordItems {type type' : Except GenerationError Item}
    (htype : type.map Item.undocumented = type'.map Item.undocumented)
    (codec : Except GenerationError Item) (keys : List Item) :
    (type >>= fun type => codec >>= fun codec => Except.ok (type :: keys ++ [codec])).map
        (List.map Item.undocumented) =
      (type' >>= fun type => codec >>= fun codec => Except.ok (type :: keys ++ [codec])).map
        (List.map Item.undocumented) := by
  refine bind_map_congr Item.undocumented htype fun a b hab => ?_
  refine bind_map_congr id rfl fun codec codec' hcodec => ?_
  obtain rfl : codec = codec' := hcodec
  exact congrArg (fun item => Except.ok (item :: (keys ++ [codec]).map Item.undocumented)) hab

theorem shapeItems (h : k.IsOutline m P Q) {id : ShapeId} (hid : P id) :
    (k.shapeItems id).map (List.map Item.undocumented) =
      (m.shapeItems id).map (List.map Item.undocumented) := by
  unfold Model.shapeItems
  rw [map_eq_bind, map_eq_bind, bind_assoc, bind_assoc]
  refine h.resolve_congr hid fun s hs => ?_
  rw [← map_eq_bind, ← map_eq_bind, Shape.kind_undocumented]
  cases hkind : s.kind with
  | «structure» members =>
    dsimp only [ShapeKind.undocumented]
    rw [h.structureCodec hs, Shape.codingKeyItems_undocumented]
    exact recordItems (h.structureItem hs) _ _
  | union members =>
    dsimp only [ShapeKind.undocumented]
    rw [h.unionCodec hs, Shape.codingKeyItems_undocumented]
    exact recordItems (h.unionItem hs) _ _
  | enum values => rfl
  | list _ | set _ | map _ _ | primitive _ =>
    exact congrArg (fun symbol => Except.map _ (symbol >>= _)) (h.symbol modelNamespace hid)

/-- But for documentation, the module of the types of some shapes of the part is the same. -/
theorem typesModule (h : k.IsOutline m P Q) {ids : List ShapeId} (hids : ∀ id ∈ ids, P id) :
    (k.typesModule ids).map Module.undocumented = (m.typesModule ids).map Module.undocumented := by
  refine bind_map_congr (List.map (List.map Item.undocumented)) ?_ fun items items' hitems => ?_
  · rw [map_mapM, map_mapM]
    exact mapM_congr_of_mem fun id hid => h.shapeItems (hids id hid)
  · change Except.ok (Module.mk _ _ _ (items.flatten.map _)) =
      .ok (Module.mk _ _ _ (items'.flatten.map _))
    rw [List.map_flatten, List.map_flatten, hitems]

/-! ## The module of the client -/

theorem roleShape (h : k.IsOutline m P Q) (op : ShapeId) (role : Role) {io : Option ShapeId}
    (hio : ∀ id, io = some id → P id) :
    k.roleShape op role io = (m.roleShape op role io).map (Option.map .undocumented) := by
  cases io with
  | none => rfl
  | some id =>
    change (k.resolveShape id (.role role op)).map some = _
    rw [h.resolveShape (hio id rfl)]
    change _ = ((m.resolveShape id (.role role op)).map some).map _
    cases m.resolveShape id (.role role op) <;> rfl

theorem operationShapes (h : k.IsOutline m P Q) (s : Service) {op : ShapeId} (hop : Q op) :
    k.operationShapes s.undocumented op =
      (m.operationShapes s op).map OperationShapes.undocumented := by
  unfold Model.operationShapes
  rw [h.operation op hop]
  cases ho : m.operation? op with
  | none => rfl
  | some o =>
    have hinput := h.roleShape op .input fun id hid => h.role op o hop ho id (.inl hid)
    have houtput := h.roleShape op .output fun id hid => h.role op o hop ho id (.inr hid)
    change (k.roleShape op .input o.input >>= fun _ => k.roleShape op .output o.output >>= _) = _
    rw [hinput, houtput, map_bind_eq]
    dsimp only
    cases m.roleShape op .input o.input with
    | error e => rfl
    | ok input => cases m.roleShape op .output o.output <;> rfl

theorem isWithin_of_roleShape {op : ShapeId} {role : Role} {io : Option ShapeId}
    (hio : ∀ id, io = some id → P id) {found : Option Shape}
    (hfound : m.roleShape op role io = .ok found) : ∀ s, found = some s → m.IsWithin P s := by
  rintro s rfl
  cases io with
  | none => cases hfound
  | some id =>
    obtain ⟨t, ht, heq⟩ := map_eq_ok.1 hfound
    obtain rfl := Option.some.inj heq
    exact isWithin_of_shape? (hio id rfl) (resolveShape_eq_ok.1 ht)

theorem isWithin_of_operationShapes (h : k.IsOutline m P Q) {s : Service} {op : ShapeId}
    (hop : Q op) {o : OperationShapes} (ho : m.operationShapes s op = .ok o) : o.IsWithin m P := by
  unfold Model.operationShapes at ho
  cases hoperation : m.operation? op with
  | none =>
    rw [hoperation] at ho
    cases ho
  | some operation =>
    rw [hoperation] at ho
    obtain ⟨input, hinput, ho⟩ := bind_eq_ok.1 ho
    obtain ⟨output, houtput, ho⟩ := bind_eq_ok.1 ho
    obtain rfl := Except.ok.inj ho
    have hrole := h.role op operation hop hoperation
    exact ⟨isWithin_of_roleShape (fun id hid => hrole id (.inl hid)) hinput,
      isWithin_of_roleShape (fun id hid => hrole id (.inr hid)) houtput⟩

theorem symbolOf? (h : k.IsOutline m P Q) {found : Option Shape}
    (hfound : ∀ s, found = some s → m.IsWithin P s) :
    k.symbolOf? (found.map .undocumented) = m.symbolOf? found := by
  cases found with
  | none => rfl
  | some s => exact congrArg (·.map some) (h.symbol modelNamespace (hfound s rfl).mem)

theorem methodSignature (h : k.IsOutline m P Q) {o : OperationShapes} (ho : o.IsWithin m P) :
    k.methodSignature o.undocumented = m.methodSignature o := by
  unfold Model.methodSignature
  change (k.symbolOf? (o.input.map _) >>= fun _ => k.symbolOf? (o.output.map _) >>= _) = _
  rw [h.symbolOf? ho.input, h.symbolOf? ho.output]
  rfl

theorem bindRequest (h : k.IsOutline m P Q) {o : OperationShapes} (ho : o.IsWithin m P)
    (p : Protocol) : k.bindRequest p o.undocumented = m.bindRequest p o := by
  cases p with
  | restJson => exact h.restRequest (c := ⟨o.operation, o.input⟩) ho.input
  | rpcJson => exact congrArg Except.ok (rpcRequest_undocumented ⟨o.operation, o.input⟩)

theorem methodItem (h : k.IsOutline m P Q) {o : OperationShapes} (ho : o.IsWithin m P)
    (p : Protocol) (r : Registry) : k.methodItem p r o.undocumented = m.methodItem p r o := by
  unfold Model.methodItem
  rw [h.methodSignature ho, h.bindRequest ho]
  change (_ >>= fun _ => _ >>= fun _ => _ >>= fun _ => Except.ok (Associated.function _ _ _
    (_ :: _ ++ _ ++ bindResponse (o.output.map _)))) = _
  rw [bindResponse_undocumented]
  rfl

/-- But for documentation, the module of the client of a service that lists operations of the part
is the same. -/
theorem clientModule (h : k.IsOutline m P Q) {s : Service} (hs : ∀ op ∈ s.operations, Q op)
    (p : Protocol) : (k.clientModule s.undocumented p).map Module.undocumented =
      (m.clientModule s p).map Module.undocumented := by
  unfold Model.clientModule
  refine bind_map_congr id rfl fun registry registry' hregistry => ?_
  obtain rfl : registry = registry' := hregistry
  have hoperations : s.operations.mapM (k.operationShapes s.undocumented) =
      (s.operations.mapM (m.operationShapes s)).map (List.map .undocumented) := by
    rw [map_mapM]
    exact mapM_congr_of_mem fun op hop => h.operationShapes s (hs op hop)
  change ((s.operations.mapM (k.operationShapes s.undocumented)) >>= _).map _ = _
  rw [hoperations, map_bind_eq, map_eq_bind, map_eq_bind, bind_assoc, bind_assoc]
  refine bind_congr_of_ok fun operations hok => ?_
  have hwithin : ∀ o ∈ operations, o.IsWithin m P := fun o ho => by
    obtain ⟨op, hop, hfound⟩ := exists_of_mem_results hok o ho
    exact h.isWithin_of_operationShapes (hs op hop) hfound
  rw [← map_eq_bind, ← map_eq_bind]
  refine bind_map_congr (List.map Method.undocumented) ?_ fun signatures signatures' hsig => ?_
  · rw [map_mapM, map_mapM]
    refine mapM_map_congr fun o ho => ?_
    rw [h.methodSignature (hwithin o ho)]
    cases m.methodSignature o <;> rfl
  have hmethods : (operations.map .undocumented).mapM (k.methodItem p registry) =
      operations.mapM (m.methodItem p registry) :=
    mapM_map_congr fun o ho => h.methodItem (hwithin o ho) p registry
  rw [hmethods]
  refine bind_map_congr id rfl fun methods methods' heq => ?_
  obtain rfl : methods = methods' := heq
  change Except.ok (Module.mk _ _ _ (Item.interface _ _ (signatures.map _) :: _)) =
    .ok (Module.mk _ _ _ (Item.interface _ _ (signatures'.map _) :: _))
  rw [hsig]
  rfl

end Model.IsOutline

end ClientGen
