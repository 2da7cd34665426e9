import ClientGen.Proofs.Crate.Faults
import ClientGen.Proofs.Protocol.Calls
import ClientGen.Proofs.Symbol.Parts

/-!
# What the modules of a crate call and need

The functions of both modules call common functions and those of the shapes that the service
reaches. Beside names, the modules need the package for JSON, the types of these shapes, and types
without packages that are always in scope.
-/

namespace ClientGen

theorem Registry.keepsTo_render {F : String → Prop} {r : Registry} {operation : ShapeId}
    {stack : String} {stmts : List Stmt} (h : r.render operation stack = .ok stmts) :
    StmtsKeepTo F stmts := by
  obtain ⟨order, -, h⟩ := bind_eq_ok.1 h
  obtain rfl := Except.ok.inj h
  refine stmtsKeepTo_iff.2 fun stmt hstmt => ?_
  obtain ⟨d, -, rfl⟩ := List.mem_map.1 hstmt
  simp (disch := decide) [push, Stmt.KeepsTo, Expr.keepsTo_method]

namespace Model

variable {m : Model} {ids : List ShapeId} {s : Shape} {service : Service} {o : OperationShapes}

/-! ## Operations -/

/-- The shapes of an operation are structures among those that the service reaches. -/
structure HasStructures (m : Model) (ids : List ShapeId) (o : OperationShapes) : Prop where
  isAmong : o.IsAmong m ids
  output : ∀ s, o.output = some s → s.isStructure = true

theorem roleShape_eq_ok {op : ShapeId} {role : Role} {io : Option ShapeId} {s : Shape}
    (h : m.roleShape op role io = .ok (some s)) : ∃ id, io = some id ∧ m.shape? id = some s := by
  cases io with
  | none => cases h
  | some id =>
    obtain ⟨t, ht, heq⟩ := map_eq_ok.1 h
    obtain rfl := Option.some.inj heq
    exact ⟨id, rfl, resolveShape_eq_ok.1 ht⟩

theorem hasStructures (h : m.HasOperations service ids) {op : ShapeId}
    (hop : op ∈ service.operations) (ho : m.operationShapes service op = .ok o) :
    m.HasStructures ids o := by
  obtain ⟨operation, hoperation, hio⟩ := h op hop
  unfold operationShapes at ho
  rw [hoperation] at ho
  obtain ⟨input, hinput, ho⟩ := bind_eq_ok.1 ho
  obtain ⟨output, houtput, ho⟩ := bind_eq_ok.1 ho
  obtain rfl := Except.ok.inj ho
  have hrole {role : Role} {io : Option ShapeId} {t : Option Shape} {s : Shape}
      (hto : ∀ id, io = some id → operation.input = some id ∨ operation.output = some id)
      (ht : m.roleShape op role io = .ok t) (hs : t = some s) :
      m.IsAmong ids s ∧ s.isStructure = true := by
    obtain ⟨id, hid, hshape⟩ := roleShape_eq_ok (hs ▸ ht)
    obtain ⟨hmem, u, hu, hstructure⟩ := hio id (hto id hid)
    obtain rfl := Option.some.inj (hshape.symm.trans hu)
    exact ⟨isAmong_of_shape? hmem hshape, hstructure⟩
  have houtputs s hs := hrole (s := s) (fun id hid => .inr hid) houtput hs
  exact ⟨⟨fun s hs => (hrole (fun id hid => .inl hid) hinput hs).1, fun s hs => (houtputs s hs).1⟩,
    fun s hs => (houtputs s hs).2⟩

/-! ## Calls of the client -/

theorem keepsTo_bindRequest (h : m.IsClosed ids) (ho : o.IsAmong m ids) {p : Protocol}
    {stmts : List Stmt} (hstmts : m.bindRequest p o = .ok stmts) :
    StmtsKeepTo (m.MayCall ids) stmts := by
  cases p with
  | restJson => exact Call.keepsTo_restRequest (c := ⟨o.operation, o.input⟩) h ho.input hstmts
  | rpcJson =>
    obtain rfl := Except.ok.inj hstmts
    exact Call.keepsTo_rpcRequest _

theorem keepsTo_bindResponse (ho : m.HasStructures ids o) :
    StmtsKeepTo (m.MayCall ids) (bindResponse o.output) := by
  cases houtput : o.output with
  | none =>
    simp (disch := decide) [bindResponse, StmtsKeepTo, Stmt.KeepsTo, Expr.keepsTo_method]
  | some s =>
    have hdecode : m.MayCall ids s!"{s.generatedName}::decode" := by
      refine (ho.isAmong.output s houtput).mayCall ?_
      rw [Shape.functions_of_isStructure (ho.output s houtput)]
      exact List.mem_singleton_self _
    simp (disch := decide) [bindResponse, StmtsKeepTo, Stmt.KeepsTo, Expr.keepsTo_method, hdecode]

/-- The method of an operation has the types of its shapes in its head, and its body keeps to the
functions of these. -/
theorem methodItem_ok (h : m.IsClosed ids) (ho : m.HasStructures ids o) {p : Protocol}
    {r : Registry} {method : Associated} (hmethod : m.methodItem p r o = .ok method) :
    ∃ signature body, m.methodSignature o = .ok signature ∧
      method = .function none false signature body ∧ StmtsKeepTo (m.MayCall ids) body := by
  obtain ⟨signature, hsignature, hmethod⟩ := bind_eq_ok.1 hmethod
  obtain ⟨pushes, hpushes, hmethod⟩ := bind_eq_ok.1 hmethod
  obtain ⟨request, hrequest, hmethod⟩ := bind_eq_ok.1 hmethod
  obtain rfl := Except.ok.inj hmethod
  refine ⟨signature, _, hsignature, rfl, ?_⟩
  have hpushed : StmtsKeepTo (m.MayCall ids) pushes := Registry.keepsTo_render hpushes
  have hbound := keepsTo_bindRequest h ho.isAmong hrequest
  simp (disch := decide) [StmtsKeepTo, Stmt.KeepsTo, hpushed, hbound, keepsTo_bindResponse ho]

/-- What the module of the client is made of. -/
theorem clientModule_ok (h : m.IsClosed ids) (hservice : m.HasOperations service ids)
    {p : Protocol} {t : Module} (ht : m.clientModule service p = .ok t) :
    ∃ docs signatures methods,
      t.items = [.interface docs service.apiName signatures] ++ clientItems service
        ++ [.impl (some service.apiName) service.clientName methods] ∧
      (∀ n ∈ t.needs, n.IsItem) ∧
      (∀ e ∈ signatures, ∃ o, m.HasStructures ids o ∧ m.methodSignature o = .ok e.signature) ∧
      ∀ e ∈ methods, ∃ o signature body, m.HasStructures ids o ∧
        m.methodSignature o = .ok signature ∧ e = .function none false signature body ∧
        StmtsKeepTo (m.MayCall ids) body := by
  obtain ⟨registry, -, ht⟩ := bind_eq_ok.1 ht
  obtain ⟨operations, hoperations, ht⟩ := bind_eq_ok.1 ht
  obtain ⟨signatures, hsignatures, ht⟩ := bind_eq_ok.1 ht
  obtain ⟨methods, hmethods, ht⟩ := bind_eq_ok.1 ht
  obtain rfl := Except.ok.inj ht
  have hstructures : ∀ o ∈ operations, m.HasStructures ids o := by
    intro o ho
    obtain ⟨op, hop, ho⟩ := exists_of_mem_results hoperations o ho
    exact hasStructures hservice hop ho
  refine ⟨_, signatures, methods, rfl, fun n hn => ?_, fun e he => ?_, fun e he => ?_⟩
  · rcases List.mem_append.1 hn with hn | hn
    · rcases List.mem_cons.1 hn with rfl | hn
      · trivial
      · obtain rfl := List.mem_singleton.1 hn
        trivial
    · obtain ⟨name, -, rfl⟩ := List.mem_map.1 hn
      trivial
  · obtain ⟨o, ho, he⟩ := exists_of_mem_results hsignatures e he
    obtain ⟨signature, hsignature, he⟩ := bind_eq_ok.1 he
    obtain rfl := Except.ok.inj he
    exact ⟨o, hstructures o ho, hsignature⟩
  · obtain ⟨o, ho, he⟩ := exists_of_mem_results hmethods e he
    obtain ⟨signature, body, hsignature, heq, hbody⟩ := methodItem_ok h (hstructures o ho) he
    exact ⟨o, signature, body, hstructures o ho, hsignature, heq, hbody⟩

theorem keepsTo_clientItems (service : Service) :
    ∀ x ∈ clientItems service, x.KeepsTo (m.MayCall ids) := by
  simp (disch := decide) [clientItems, Item.KeepsTo, Item.bodies, StmtsKeepTo, Stmt.KeepsTo, or_imp,
    forall_and]

/-- The functions of the module of the client call functions of the shapes that the service reaches,
and common ones. -/
theorem keepsTo_clientModule (h : m.IsClosed ids) (hservice : m.HasOperations service ids)
    {p : Protocol} {t : Module} (ht : m.clientModule service p = .ok t) :
    ∀ x ∈ t.items, x.KeepsTo (m.MayCall ids) := by
  obtain ⟨docs, signatures, methods, hitems, -, -, hmethods⟩ := clientModule_ok h hservice ht
  rw [hitems, List.forall_mem_append, List.forall_mem_append, List.forall_mem_singleton,
    List.forall_mem_singleton]
  refine ⟨⟨List.forall_mem_nil _, keepsTo_clientItems service⟩, fun body hbody => ?_⟩
  obtain ⟨e, he, hbody⟩ := List.mem_filterMap.1 hbody
  obtain ⟨o, signature, body', -, -, rfl, hkeeps⟩ := hmethods e he
  obtain rfl := Option.some.inj hbody
  exact hkeeps

/-! ## Needs -/

/-- The head of a type of one of the shapes, or of a type without packages that is always in scope.
-/
def IsKnownHead (m : Model) (ids : List ShapeId) (head : TypeHead) : Prop :=
  m.HasHead ids modelNamespace head ∨ (head.ns = "" ∧ head.dependencies = [])

/-- A need of a name, of the package for JSON, or of a type that is known. -/
def IsKnownNeed (m : Model) (ids : List ShapeId) : Need → Prop
  | .item .. => True
  | .package d => d = .json
  | .type symbol => symbol.HeadsAre (m.IsKnownHead ids)

theorem isKnownNeed_of_isItem {n : Need} (h : n.IsItem) : m.IsKnownNeed ids n := by
  cases n with
  | item => trivial
  | type | package => cases h

theorem headsAre_ofName (name : String) :
    (Symbol.ofName name "").HeadsAre (m.IsKnownHead ids) :=
  Symbol.headsAre_iff.2 ⟨.inr ⟨rfl, rfl⟩, List.forall_mem_nil _⟩

theorem headsAre_known {symbol : Symbol} (h : symbol.HeadsAre (m.HasHead ids modelNamespace)) :
    symbol.HeadsAre (m.IsKnownHead ids) := fun part hpart => .inl (h part hpart)

/-- The item has types that are known, or is such a need itself. -/
def IsKnownItem (m : Model) (ids : List ShapeId) : Item → Prop
  | .need n => m.IsKnownNeed ids n
  | x => ∀ symbol ∈ x.types, symbol.HeadsAre (m.IsKnownHead ids)

theorem IsKnownItem.needs {x : Item} (h : m.IsKnownItem ids x)
    (hkeeps : x.KeepsTo (m.MayCall ids)) : ∀ n ∈ x.needs, m.IsKnownNeed ids n := by
  intro n hn
  rcases hkeeps.mem_needs hn with hitem | ⟨symbol, hsymbol, rfl⟩ | rfl
  · exact isKnownNeed_of_isItem hitem
  · cases x with
    | need n => cases hsymbol
    | _ => exact h symbol hsymbol
  · exact h

theorem isKnownItem_structureItem (h : m.IsClosed ids) (hs : m.IsAmong ids s) {type : Item}
    (htype : m.structureItem s = .ok type) : m.IsKnownItem ids type := by
  obtain ⟨fields, hfields, htype⟩ := bind_eq_ok.1 htype
  obtain rfl := Except.ok.inj htype
  intro symbol hsymbol
  obtain ⟨f, hf, rfl⟩ := List.mem_map.1 hsymbol
  obtain ⟨e, he, hf⟩ := exists_of_mem_results hfields f hf
  obtain ⟨symbol', hsymbol', hf⟩ := bind_eq_ok.1 hf
  obtain rfl := Except.ok.inj hf
  exact headsAre_known (headsAre_memberSymbol h hs he hsymbol')

theorem isKnownItem_unionItem (h : m.IsClosed ids) (hs : m.IsAmong ids s) {type : Item}
    (htype : m.unionItem s = .ok type) : m.IsKnownItem ids type := by
  obtain ⟨variants, hvariants, htype⟩ := bind_eq_ok.1 htype
  obtain rfl := Except.ok.inj htype
  intro symbol hsymbol
  obtain ⟨v, hv, hpayload⟩ := List.mem_filterMap.1 hsymbol
  rcases List.mem_append.1 hv with hv | hv
  · obtain ⟨e, he, hv⟩ := exists_of_mem_results hvariants v hv
    obtain ⟨symbol', hsymbol', hv⟩ := bind_eq_ok.1 hv
    obtain rfl := Except.ok.inj hv
    obtain rfl := Option.some.inj hpayload
    exact headsAre_known (headsAre_memberSymbol h hs he hsymbol')
  · obtain rfl := List.mem_singleton.1 hv
    obtain rfl := Option.some.inj hpayload
    exact headsAre_ofName "String"

theorem isKnownItem_codingKeyItems (s : Shape) :
    ∀ x ∈ s.codingKeyItems, m.IsKnownItem ids x := by
  simp [Shape.codingKeyItems, IsKnownItem, Item.types, List.filterMap_map]

theorem isKnownItem_enumItems (s : Shape) (values : List EnumValue) :
    ∀ x ∈ s.enumItems values, m.IsKnownItem ids x := by
  simp [Shape.enumItems, Shape.enumItem, Shape.enumValues, Shape.enumFrom, Shape.enumDisplay,
    IsKnownItem, Item.types, List.filterMap_map, headsAre_ofName]

theorem isKnownItem_structureCodec {codec : Item} (h : m.structureCodec s = .ok codec) :
    m.IsKnownItem ids codec := by
  obtain ⟨decoder, -, h⟩ := bind_eq_ok.1 h
  obtain ⟨encoder, -, h⟩ := bind_eq_ok.1 h
  obtain rfl := Except.ok.inj h
  exact List.forall_mem_nil _

theorem isKnownItem_unionCodec {codec : Item} (h : m.unionCodec s = .ok codec) :
    m.IsKnownItem ids codec := by
  obtain ⟨decoder, -, h⟩ := bind_eq_ok.1 h
  obtain ⟨encoder, -, h⟩ := bind_eq_ok.1 h
  obtain rfl := Except.ok.inj h
  exact List.forall_mem_nil _

/-- What is written for a shape of the closure has types that are known. -/
theorem isKnownItem_shapeItems (h : m.IsClosed ids) {id : ShapeId} (hid : id ∈ ids)
    {items : List Item} (hitems : m.shapeItems id = .ok items) :
    ∀ x ∈ items, m.IsKnownItem ids x := by
  obtain ⟨s, hs, hitems⟩ := bind_eq_ok.1 hitems
  have hamong : m.IsAmong ids s := isAmong_of_shape? hid (resolveShape_eq_ok.1 hs)
  have hrecord {type codec : Item} (htype : m.IsKnownItem ids type)
      (hcodec : m.IsKnownItem ids codec) :
      ∀ x ∈ type :: s.codingKeyItems ++ [codec], m.IsKnownItem ids x := by
    rw [List.forall_mem_append, List.forall_mem_cons, List.forall_mem_singleton]
    exact ⟨⟨htype, isKnownItem_codingKeyItems s⟩, hcodec⟩
  cases hkind : s.kind with
  | «structure» ms =>
    rw [hkind] at hitems
    obtain ⟨type, htype, hitems⟩ := bind_eq_ok.1 hitems
    obtain ⟨codec, hcodec, hitems⟩ := bind_eq_ok.1 hitems
    obtain rfl := Except.ok.inj hitems
    exact hrecord (isKnownItem_structureItem h hamong htype) (isKnownItem_structureCodec hcodec)
  | union ms =>
    rw [hkind] at hitems
    obtain ⟨type, htype, hitems⟩ := bind_eq_ok.1 hitems
    obtain ⟨codec, hcodec, hitems⟩ := bind_eq_ok.1 hitems
    obtain rfl := Except.ok.inj hitems
    exact hrecord (isKnownItem_unionItem h hamong htype) (isKnownItem_unionCodec hcodec)
  | enum values =>
    rw [hkind] at hitems
    obtain rfl := Except.ok.inj hitems
    exact isKnownItem_enumItems s values
  | list _ | set _ | map _ _ | primitive _ =>
    rw [hkind] at hitems
    obtain ⟨symbol, hsymbol, hitems⟩ := bind_eq_ok.1 hitems
    obtain rfl := Except.ok.inj hitems
    exact List.forall_mem_singleton.2 (headsAre_known (headsAre_symbolFrom h hid hsymbol))

/-- The module of the types needs names, the package for JSON and types that are known. -/
theorem isKnownNeed_typesModule (h : m.IsClosed ids) {t : Module} (ht : m.typesModule ids = .ok t) :
    ∀ n ∈ t.allNeeds, m.IsKnownNeed ids n := by
  have hkeeps := keepsTo_typesModule h ht
  have hitems : ∀ n ∈ t.items.flatMap Item.needs, m.IsKnownNeed ids n := by
    intro n hn
    obtain ⟨x, hx, hn⟩ := List.mem_flatMap.1 hn
    obtain ⟨id, hid, items, hitems, hmem⟩ := exists_of_mem_items ht hx
    exact (isKnownItem_shapeItems h hid hitems x hmem).needs (hkeeps x hx) n hn
  refine List.forall_mem_append.2 ⟨?_, hitems⟩
  obtain ⟨items, -, ht⟩ := bind_eq_ok.1 ht
  obtain rfl := Except.ok.inj ht
  simp [IsKnownNeed]

theorem headsAre_symbolOf? (h : m.IsClosed ids) {io : Option Shape}
    (hio : ∀ s, io = some s → m.IsAmong ids s) {symbol : Option Symbol}
    (hsymbol : m.symbolOf? io = .ok symbol) :
    ∀ t ∈ symbol.toList, t.HeadsAre (m.IsKnownHead ids) := by
  cases io with
  | none =>
    obtain rfl := Except.ok.inj hsymbol
    exact List.forall_mem_nil _
  | some s =>
    obtain ⟨t, ht, rfl⟩ := map_eq_ok.1 hsymbol
    exact List.forall_mem_singleton.2 (headsAre_known (headsAre_symbolFrom h (hio s rfl).mem ht))

theorem headsAre_methodSignature (h : m.IsClosed ids) (ho : o.IsAmong m ids)
    {signature : Signature} (hsignature : m.methodSignature o = .ok signature) :
    ∀ t ∈ signature.types, t.HeadsAre (m.IsKnownHead ids) := by
  obtain ⟨input, hinput, hsignature⟩ := bind_eq_ok.1 hsignature
  obtain ⟨output, houtput, hsignature⟩ := bind_eq_ok.1 hsignature
  obtain rfl := Except.ok.inj hsignature
  exact List.forall_mem_append.2
    ⟨headsAre_symbolOf? h ho.input hinput, headsAre_symbolOf? h ho.output houtput⟩

theorem isKnownItem_clientItems (service : Service) :
    ∀ x ∈ clientItems service, m.IsKnownItem ids x := by
  simp [clientItems, IsKnownItem, Item.types, headsAre_ofName]

/-- The module of the client needs names and types that are known. -/
theorem isKnownNeed_clientModule (h : m.IsClosed ids) (hservice : m.HasOperations service ids)
    {p : Protocol} {t : Module} (ht : m.clientModule service p = .ok t) :
    ∀ n ∈ t.allNeeds, m.IsKnownNeed ids n := by
  have hkeeps := keepsTo_clientModule h hservice ht
  obtain ⟨docs, signatures, methods, hitems, hneeds, hsignatures, hmethods⟩ :=
    clientModule_ok h hservice ht
  have hknown : ∀ x ∈ t.items, m.IsKnownItem ids x := by
    rw [hitems, List.forall_mem_append, List.forall_mem_append, List.forall_mem_singleton,
      List.forall_mem_singleton]
    refine ⟨⟨fun symbol hsymbol => ?_, isKnownItem_clientItems service⟩, fun symbol hsymbol => ?_⟩
    · obtain ⟨e, he, hsymbol⟩ := List.mem_flatMap.1 hsymbol
      obtain ⟨o, ho, hsignature⟩ := hsignatures e he
      exact headsAre_methodSignature h ho.isAmong hsignature symbol hsymbol
    · obtain ⟨e, he, hsymbol⟩ := List.mem_flatMap.1 hsymbol
      obtain ⟨o, signature, body, ho, hsignature, rfl, -⟩ := hmethods e he
      exact headsAre_methodSignature h ho.isAmong hsignature symbol hsymbol
  refine List.forall_mem_append.2 ⟨fun n hn => isKnownNeed_of_isItem (hneeds n hn), fun n hn => ?_⟩
  obtain ⟨x, hx, hn⟩ := List.mem_flatMap.1 hn
  exact (hknown x hx).needs (hkeeps x hx) n hn

end Model

end ClientGen
