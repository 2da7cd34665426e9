import ClientGen.Proofs.Crate.Emission
import ClientGen.Proofs.Middleware.Forward
import ClientGen.Proofs.Protocol.Faults

/-!
# What can be wrong with the modules of a crate

A validated model has its module of types unless a default has no expression, and its module of the
client unless in addition an operation asks for a binding that no request can have. Its references,
its cycles, the scopes of its code and the order of its stacks are no concern any more.
-/

namespace ClientGen

open GenerationError (IsDefaultFault IsRequestFault)

/-- Every protocol has a registry, and its stack has an order. -/
theorem Protocol.registry_ok (p : Protocol) (service : String) :
    ∃ r order, p.registry service = .ok r ∧ r.resolve = .ok order := by
  refine Registry.registerAll_new service ?_
  cases p <;> simp [middleware, commonMiddleware, Registry.IsForwardFrom]

/-- The input and the output of the operation are among the shapes. -/
structure OperationShapes.IsAmong (o : OperationShapes) (m : Model) (ids : List ShapeId) :
    Prop where
  input : ∀ s, o.input = some s → m.IsAmong ids s
  output : ∀ s, o.output = some s → m.IsAmong ids s

namespace Model

variable {m : Model} {ids : List ShapeId} {s : Shape} {P : GenerationError → Prop}

/-! ## The module of the types -/

theorem structureItem_faults (hP : m.SymbolsFailOnly ids P) (hs : m.IsAmong ids s) :
    FailsOnly P (m.structureItem s) := by
  unfold structureItem
  refine FailsOnly.bind (.mapM fun e he => ?_) fun fields _ => .ok _
  exact (hP.member s hs e he).bind fun symbol _ => .ok _

theorem unionItem_faults (hP : m.SymbolsFailOnly ids P) (hs : m.IsAmong ids s) :
    FailsOnly P (m.unionItem s) := by
  unfold unionItem
  refine FailsOnly.bind (.mapM fun e he => ?_) fun variants _ => .ok _
  exact (hP.member s hs e he).bind fun symbol _ => .ok _

theorem shapeItems_faults (h : m.IsSound ids) (hP : m.SymbolsFailOnly ids P) {id : ShapeId}
    (hid : id ∈ ids) : FailsOnly P (m.shapeItems id) := by
  obtain ⟨s, hs⟩ := h.defined id hid
  have hamong : m.IsAmong ids s := isAmong_of_shape? hid hs
  have hsymbol : FailsOnly P (m.symbol modelNamespace id >>= fun symbol =>
      pure [Item.need (.type symbol)]) :=
    (hP.shape id hid).bind fun symbol _ => .ok _
  unfold shapeItems
  rw [ok_bind (resolveShape_eq_ok.2 hs)]
  split
  case h_1 =>
    refine (structureItem_faults hP hamong).bind fun type _ => ?_
    exact (structureCodec_faults h hP hamong).bind fun codec _ => .ok _
  case h_2 =>
    refine (unionItem_faults hP hamong).bind fun type _ => ?_
    exact (unionCodec_faults h hP hamong).bind fun codec _ => .ok _
  case h_3 => exact .ok _
  case h_4 | h_5 | h_6 | h_7 => exact hsymbol

/-- The module of the types fails only as the symbols of its shapes and of their members do. -/
theorem typesModule_faults (h : m.IsSound ids) (hP : m.SymbolsFailOnly ids P) :
    FailsOnly P (m.typesModule ids) := by
  unfold typesModule
  exact FailsOnly.bind (.mapM fun id hid => shapeItems_faults h hP hid) fun items _ => .ok _

/-- The module of the types is made if each shape and each member has a symbol. -/
theorem typesModule_ok (h : m.IsSound ids)
    (hshapes : ∀ id ∈ ids, ∃ symbol, m.symbol modelNamespace id = .ok symbol)
    (hmembers : ∀ s, m.IsAmong ids s → ∀ e ∈ s.members,
      ∃ symbol, m.memberSymbol modelNamespace s.id e = .ok symbol) :
    ∃ t, m.typesModule ids = .ok t := by
  have hP : m.SymbolsFailOnly ids fun _ => False :=
    ⟨fun id hid => .of_eq_ok (hshapes id hid), fun s hs e he => .of_eq_ok (hmembers s hs e he)⟩
  rcases (typesModule_faults h hP).ok_or_error with ht | ⟨_, -, hfalse⟩
  · exact ht
  · exact hfalse.elim

/-! ## The module of the client -/

theorem roleShape_ok {io : Option ShapeId}
    (hio : ∀ id, io = some id → id ∈ ids ∧ ∃ s, m.shape? id = some s ∧ s.isStructure = true)
    (op : ShapeId) (role : Role) :
    ∃ s, m.roleShape op role io = .ok s ∧ ∀ t, s = some t → m.IsAmong ids t := by
  cases io with
  | none =>
    refine ⟨none, rfl, fun t ht => ?_⟩
    cases ht
  | some id =>
    obtain ⟨hid, s, hs, -⟩ := hio id rfl
    refine ⟨some s, ?_, fun t ht => ?_⟩
    · rw [roleShape, resolveShape_eq_ok.2 hs]
      rfl
    · cases ht
      exact isAmong_of_shape? hid hs

theorem operationShapes_ok {service : Service} (h : m.HasOperations service ids) {op : ShapeId}
    (hop : op ∈ service.operations) :
    ∃ o, m.operationShapes service op = .ok o ∧ o.IsAmong m ids := by
  obtain ⟨o, ho, hio⟩ := h op hop
  obtain ⟨input, hinput, hinputs⟩ := roleShape_ok (fun id hid => hio id (.inl hid)) op .input
  obtain ⟨output, houtput, houtputs⟩ := roleShape_ok (fun id hid => hio id (.inr hid)) op .output
  refine ⟨⟨o, input, output⟩, ?_, hinputs, houtputs⟩
  unfold operationShapes
  rw [ho]
  change m.roleShape op .input o.input >>= _ = _
  rw [ok_bind hinput, ok_bind houtput]
  rfl

theorem methodSignature_faults (h : m.IsSound ids) {o : OperationShapes} (ho : o.IsAmong m ids) :
    FailsOnly IsRequestFault (m.methodSignature o) := by
  have hsymbol : ∀ io : Option Shape, (∀ s, io = some s → m.IsAmong ids s) →
      FailsOnly IsRequestFault (m.symbolOf? io) := by
    intro io hio
    cases io with
    | none => exact .ok none
    | some s =>
      exact ((symbol_faults h (hio s rfl).mem).mono fun _ hfault => hfault.isRequestFault).map
  unfold methodSignature
  refine (hsymbol o.input ho.input).bind fun input _ => ?_
  exact (hsymbol o.output ho.output).bind fun output _ => .ok _

theorem methodItem_faults (h : m.IsSound ids) {o : OperationShapes} (ho : o.IsAmong m ids)
    (p : Protocol) {r : Registry} {order : List Middleware} (hr : r.resolve = .ok order) :
    FailsOnly IsRequestFault (m.methodItem p r o) := by
  have hrequest : FailsOnly IsRequestFault (m.bindRequest p o) := by
    cases p with
    | restJson => exact Call.restRequest_faults h ho.input
    | rpcJson => exact .ok _
  have hrender : FailsOnly IsRequestFault (r.render o.operation.id "stack") := by
    unfold Registry.render
    rw [ok_bind hr]
    exact .ok _
  unfold methodItem
  refine (methodSignature_faults h ho).bind fun signature _ => ?_
  refine hrender.bind fun pushes _ => ?_
  exact hrequest.bind fun request _ => .ok _

/-- The module of the client fails at nothing but defaults and bindings. -/
theorem clientModule_faults (h : m.IsSound ids) {service : Service}
    (hservice : m.HasOperations service ids) (p : Protocol) :
    FailsOnly IsRequestFault (m.clientModule service p) := by
  obtain ⟨r, order, hregistry, hresolve⟩ := p.registry_ok service.id.name
  obtain ⟨operations, hoperations, hamong⟩ :=
    mapM_exists_ok fun op hop => operationShapes_ok hservice hop
  unfold clientModule
  rw [ok_bind hregistry, ok_bind hoperations]
  refine FailsOnly.bind (.mapM fun o ho => ?_) fun signatures _ => ?_
  · exact (methodSignature_faults h (hamong o ho)).bind fun signature _ => .ok _
  · refine FailsOnly.bind (.mapM fun o ho => ?_) fun methods _ => .ok _
    exact methodItem_faults h (hamong o ho) p hresolve

/-- A client of remote calls is made where the heads of its methods are. -/
theorem exists_clientModule_rpcJson {service : Service} (shapes : ShapeId → OperationShapes)
    (hshapes : ∀ op ∈ service.operations, m.operationShapes service op = .ok (shapes op))
    (hsignatures : ∀ op ∈ service.operations,
      ∃ signature, m.methodSignature (shapes op) = .ok signature) :
    ∃ client, m.clientModule service .rpcJson = .ok client := by
  obtain ⟨r, order, hregistry, hresolve⟩ := Protocol.rpcJson.registry_ok service.id.name
  have hsignature : ∀ o ∈ service.operations.map shapes, ∃ e, (do
      pure (⟨o.operation.documentation, ← m.methodSignature o⟩ : Method)) = .ok e ∧ True := by
    intro o ho
    obtain ⟨op, hop, rfl⟩ := List.mem_map.1 ho
    obtain ⟨signature, hsignature⟩ := hsignatures op hop
    exact ⟨_, ok_bind hsignature _, trivial⟩
  have hmethod : ∀ o ∈ service.operations.map shapes,
      ∃ e, m.methodItem .rpcJson r o = .ok e ∧ True := by
    intro o ho
    obtain ⟨op, hop, rfl⟩ := List.mem_map.1 ho
    obtain ⟨signature, hsignature⟩ := hsignatures op hop
    have hrender : r.render (shapes op).operation.id "stack" =
        .ok (order.map (Registry.push (shapes op).operation.id "stack")) := ok_bind hresolve _
    rw [methodItem, ok_bind hsignature, ok_bind hrender]
    exact ⟨_, rfl, trivial⟩
  obtain ⟨signatures, hsignatures, -⟩ := mapM_exists_ok hsignature
  obtain ⟨methods, hmethods, -⟩ := mapM_exists_ok hmethod
  unfold clientModule
  rw [ok_bind hregistry, ok_bind (mapM_eq_ok hshapes), ok_bind hsignatures, ok_bind hmethods]
  exact ⟨_, rfl⟩

/-! ## Validated models -/

/-- Where a model passes the checks for a service, the calls that write the modules of the types and
of the client come to an end with the text of these modules for either protocol, or a default or a
binding is what is wrong. -/
theorem write_of_validate {service : ShapeId} (h : m.validate service = .ok ()) (p : Protocol) :
    ∃ s shapes, m.service? service = some s ∧ m.reachable service = .ok shapes ∧
      ((∃ types, m.typesModule shapes = .ok types ∧ m.writeTypes shapes = .ok types.unit) ∨
        ∃ e, m.writeTypes shapes = .error e ∧ IsDefaultFault e) ∧
      ((∃ client, m.clientModule s p = .ok client ∧ m.writeClient s p = .ok client.unit) ∨
        ∃ e, m.writeClient s p = .error e ∧ IsRequestFault e) := by
  obtain ⟨s, shapes, hs, hshapes, hsound, hoperations⟩ := validate_ok h
  have htypes := (typesModule_faults hsound hsound.symbolsFailOnly).ok_or_error
  have hclient := (clientModule_faults hsound hoperations p).ok_or_error
  refine ⟨s, shapes, hs, hshapes, ?_, ?_⟩
  · rw [writeTypes_eq]
    rcases htypes with ⟨types, htypes⟩ | ⟨e, he, hfault⟩
    · exact .inl ⟨types, htypes, congrArg (Except.map Module.unit) htypes⟩
    · exact .inr ⟨e, congrArg (Except.map Module.unit) he, hfault⟩
  · rw [writeClient_eq]
    rcases hclient with ⟨client, hclient⟩ | ⟨e, he, hfault⟩
    · exact .inl ⟨client, hclient, congrArg (Except.map Module.unit) hclient⟩
    · exact .inr ⟨e, congrArg (Except.map Module.unit) he, hfault⟩

open CycleKind in
/-- A store that puts a key is validated, and its modules are written. -/
theorem write_of_validate_store :
    let input : Shape := ⟨⟨"store", "Input"⟩, .structure [⟨"key", ⟨"store", "Key"⟩, true, []⟩], []⟩
    let key : Shape := ⟨⟨"store", "Key"⟩, .primitive .string, []⟩
    let put : Operation := ⟨⟨"store", "Put"⟩, some input.id, none, none, none⟩
    let store : Service := ⟨⟨"store", "Store"⟩, "1", [put.id], none, none⟩
    let m : Model := ⟨⟨[input, key], by decide⟩, ⟨[put], by decide⟩, ⟨[store], by decide⟩⟩
    m.validate store.id = .ok () ∧
      ∃ s shapes, m.service? store.id = some s ∧ m.reachable store.id = .ok shapes ∧
        ((∃ types, m.typesModule shapes = .ok types ∧ m.writeTypes shapes = .ok types.unit) ∨
          ∃ e, m.writeTypes shapes = .error e ∧ IsDefaultFault e) ∧
        ((∃ client, m.clientModule s .restJson = .ok client ∧
            m.writeClient s .restJson = .ok client.unit) ∨
          ∃ e, m.writeClient s .restJson = .error e ∧ IsRequestFault e) := by
  intro input key put store m
  have hinput : m.shape? input.id = some input := by decide
  have hkey : m.shape? key.id = some key := by decide
  have hservice : m.resolveService store.id = .ok store := by decide
  have hroles : store.operations.forM (m.checkOperation store.id) = .ok () := by decide
  have hreachable : m.reachable store.id = .ok [input.id, key.id] := by
    have hinsert : SortedSet.insert key.id [input.id] = [input.id, key.id] := by decide
    change m.closure [] [(input.id, .operation put.id)] = _
    rw [closure_new (by decide) hinput]
    change m.closure [input.id] [(key.id, .member input.id "key")] = _
    rw [closure_new (by decide) hkey, hinsert]
    exact closure_nil
  have hshapes : [input.id, key.id].forM m.checkShape = .ok () := by decide
  -- The one required member leads to no structure, and there is no collection.
  have hrequired : required.walk m [] [] input.id = .ok [input.id] := by
    rw [walk_expand (by decide) (by decide) hinput rfl]
    change (required.walkEdges m [input.id] [] input [⟨"key", key.id, true, []⟩]).map _ = _
    rw [walkEdges_skip (by decide), walkEdges_nil]
    rfl
  have hcycles : m.checkCycles [] [] [input.id, key.id] = .ok () := by
    rw [checkCycles, ok_bind hrequired, ok_bind (walk_leaf (by decide) (by decide) hinput rfl)]
    rw [checkCycles, ok_bind (walk_leaf (by decide) (by decide) hkey rfl),
      ok_bind (walk_leaf (by decide) (by decide) hkey rfl), checkCycles]
  have hvalid : m.validate store.id = .ok () := by
    rw [validate, ok_bind hservice, ok_bind hroles, ok_bind hreachable, ok_bind hshapes, hcycles]
  exact ⟨hvalid, write_of_validate hvalid .restJson⟩

end Model

end ClientGen
