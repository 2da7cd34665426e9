import ClientGen.Proofs.Crate.Faults
import ClientGen.Proofs.Model.Loading

/-!
# The methods of the client

The interface of a client has one method for each entry of the list of operations, and the client
implements the same methods. A method has the name of its operation without the namespace, in snake
case. The checks compare the names of the members of a shape, and of nothing else; so a list that
repeats an operation, or has two whose names become one, passes them and has a method twice.
-/

namespace ClientGen

/-! ## Methods of items -/

/-- The names of the methods that an item asks for, if it is an interface. -/
def Item.declaredMethods : Item → List String
  | .interface _ _ methods => methods.map fun e => e.signature.name
  | .struct .. | .enum .. | .impl .. | .need _ => []

/-- The name of what belongs to a type, if it is a function. -/
def Associated.functionName? : Associated → Option String
  | .function _ _ signature _ => some signature.name
  | .constant .. => none

/-- The names of the functions of an item, if it implements an interface. -/
def Item.implementedMethods : Item → List String
  | .impl (some _) _ members => members.filterMap Associated.functionName?
  | .impl none .. | .struct .. | .enum .. | .interface .. | .need _ => []

namespace Module

/-- The names of the methods that the interfaces of a module ask for. -/
def declaredMethods (t : Module) : List String := t.items.flatMap Item.declaredMethods

/-- The names of the functions with which a module implements interfaces. -/
def implementedMethods (t : Module) : List String := t.items.flatMap Item.implementedMethods

end Module

def ShapeId.methodName (op : ShapeId) : String := Naming.fieldName op.name

namespace Model

variable {m : Model} {s : Service} {p : Protocol} {client : Module}

/-! ## Methods of the client -/

theorem operationShapes_id {op : ShapeId} {o : OperationShapes}
    (h : m.operationShapes s op = .ok o) : o.operation.id = op := by
  unfold operationShapes at h
  split at h
  · cases h
  · rename_i operation hoperation
    obtain ⟨input, -, h⟩ := bind_eq_ok.1 h
    obtain ⟨output, -, h⟩ := bind_eq_ok.1 h
    obtain rfl := Except.ok.inj h
    exact (Catalog.get?_eq_some_iff.1 hoperation).2

theorem name_methodSignature {o : OperationShapes} {signature : Signature}
    (h : m.methodSignature o = .ok signature) : signature.name = o.operation.id.methodName := by
  obtain ⟨input, -, h⟩ := bind_eq_ok.1 h
  obtain ⟨output, -, h⟩ := bind_eq_ok.1 h
  obtain rfl := Except.ok.inj h
  rw [ShapeId.methodName]

theorem functionName?_methodItem {r : Registry} {o : OperationShapes} {e : Associated}
    (h : m.methodItem p r o = .ok e) : e.functionName? = some o.operation.id.methodName := by
  obtain ⟨signature, hsignature, h⟩ := bind_eq_ok.1 h
  obtain ⟨pushes, -, h⟩ := bind_eq_ok.1 h
  obtain ⟨request, -, h⟩ := bind_eq_ok.1 h
  obtain rfl := Except.ok.inj h
  exact congrArg some (name_methodSignature hsignature)

/-- The interface and its implementation have a method for each entry of the list, in its order. -/
theorem methods_clientModule (h : m.clientModule s p = .ok client) :
    client.declaredMethods = s.operations.map ShapeId.methodName ∧
    client.implementedMethods = s.operations.map ShapeId.methodName := by
  obtain ⟨registry, -, h⟩ := bind_eq_ok.1 h
  obtain ⟨operations, hoperations, h⟩ := bind_eq_ok.1 h
  obtain ⟨signatures, hsignatures, h⟩ := bind_eq_ok.1 h
  obtain ⟨methods, hmethods, h⟩ := bind_eq_ok.1 h
  obtain rfl := Except.ok.inj h
  have hnames : operations.map (fun o => o.operation.id.methodName) =
      s.operations.map ShapeId.methodName :=
    map_of_mapM (fun op o ho => congrArg _ (operationShapes_id ho)) hoperations
  constructor
  · have hdeclared : signatures.map (fun e => e.signature.name) =
        operations.map fun o => o.operation.id.methodName := by
      refine map_of_mapM (fun o e he => ?_) hsignatures
      obtain ⟨signature, hsignature, he⟩ := bind_eq_ok.1 he
      obtain rfl := Except.ok.inj he
      exact name_methodSignature hsignature
    rw [← hnames, ← hdeclared]
    exact List.append_nil _
  · have himplemented : methods.filterMap Associated.functionName? =
        operations.map fun o => o.operation.id.methodName := by
      rw [List.filterMap_eq_flatMap_toList, List.map_eq_flatMap]
      refine flatMap_of_mapM (fun o e he => ?_) hmethods
      rw [functionName?_methodItem he]
      rfl
    rw [← hnames, ← himplemented]
    exact List.append_nil _

/-- A client has no method twice exactly if its service lists no operation twice, and no two whose
methods have one name. -/
theorem nodup_methods_iff (h : m.clientModule s p = .ok client) :
    client.declaredMethods = s.operations.map ShapeId.methodName ∧
    client.implementedMethods = client.declaredMethods ∧
    (client.declaredMethods.Nodup ↔ s.operations.Nodup ∧
      ∀ a ∈ s.operations, ∀ b ∈ s.operations, a ≠ b → a.methodName ≠ b.methodName) := by
  obtain ⟨hdeclared, himplemented⟩ := methods_clientModule h
  refine ⟨hdeclared, himplemented.trans hdeclared.symm, ?_⟩
  rw [hdeclared]
  constructor
  · intro hnodup
    refine ⟨hnodup.of_map, fun a ha b hb hne heq => hne ?_⟩
    exact List.inj_on_of_nodup_map hnodup ha hb heq
  · rintro ⟨hnodup, hnames⟩
    refine hnodup.map_on fun a ha b hb heq => ?_
    by_contra hne
    exact hnames a ha b hb hne heq

/-! ## Operations without input and output -/

def bareService (listed : List ShapeId) : Service := ⟨⟨"a", "Store"⟩, "1", listed, none, none⟩

/-- Two operations without input and output, of which a service lists some. -/
def bareOperations (a b : ShapeId) (h : a < b) (listed : List ShapeId) : Model where
  shapes := .empty
  operations := ⟨[⟨a, none, none, none, none⟩, ⟨b, none, none, none, none⟩],
    List.pairwise_pair.2 h⟩
  services := ⟨[bareService listed], List.pairwise_singleton _ _⟩

section

variable {a b : ShapeId} (h : a < b) {listed : List ShapeId}

theorem operation?_bareOperations {op : ShapeId} (hop : op = a ∨ op = b) :
    (bareOperations a b h listed).operation? op = some ⟨op, none, none, none, none⟩ := by
  have hne : a ≠ b := fun heq => ShapeId.lt_irrefl b (heq ▸ h)
  rcases hop with rfl | rfl <;>
    simp [operation?, Catalog.get?, bareOperations, Identified.idOf, hne]

/-- The service passes the checks, since it reaches no shape. -/
theorem validate_bareOperations (hlisted : ∀ op ∈ listed, op = a ∨ op = b) :
    (bareOperations a b h listed).validate (bareService listed).id = .ok () := by
  have hservice : (bareOperations a b h listed).resolveService (bareService listed).id =
      .ok (bareService listed) :=
    resolveService_eq_ok.2
      (by simp [service?, Catalog.get?, bareOperations, bareService, Identified.idOf])
  have hoperations : (bareService listed).operations.forM
      ((bareOperations a b h listed).checkOperation (bareService listed).id) = .ok () := by
    refine forM_of_forall_ok fun op hop => ?_
    rw [checkOperation, operation?_bareOperations h (hlisted op hop)]
    rfl
  have hvisits : (bareOperations a b h listed).serviceVisits (bareService listed) = [] := by
    refine List.reverse_eq_nil_iff.2 (List.flatMap_eq_nil_iff.2 fun op hop => ?_)
    rw [operation?_bareOperations h (hlisted op hop)]
    rfl
  have hreachable : (bareOperations a b h listed).reachable (bareService listed).id = .ok [] := by
    rw [reachable, ok_bind hservice, hvisits, closure_nil]
  rw [validate, ok_bind hservice, ok_bind hoperations, ok_bind hreachable]
  rfl

/-- The module of its client is made. -/
theorem exists_clientModule_bareOperations (hlisted : ∀ op ∈ listed, op = a ∨ op = b) :
    ∃ client, (bareOperations a b h listed).clientModule (bareService listed) .rpcJson =
      .ok client := by
  refine exists_clientModule_rpcJson (fun op => ⟨⟨op, none, none, none, none⟩, none, none⟩)
    (fun op hop => ?_) fun op hop => ⟨_, rfl⟩
  rw [operationShapes, operation?_bareOperations h (hlisted op hop)]
  rfl

end

/-- A list that has an operation twice. -/
theorem nodup_methods_iff_repeated :
    let get : ShapeId := ⟨"a", "Get"⟩
    let m := bareOperations get ⟨"a", "Put"⟩ (by decide) [get, get]
    ∃ client, m.clientModule (bareService [get, get]) .rpcJson = .ok client ∧
      client.declaredMethods = ["get", "get"] ∧
      client.implementedMethods = client.declaredMethods ∧ ¬ client.declaredMethods.Nodup := by
  intro get m
  have hlisted : ∀ op ∈ [get, get], op = get ∨ op = ⟨"a", "Put"⟩ := by simp
  obtain ⟨client, hclient⟩ := exists_clientModule_bareOperations (by decide) hlisted
  obtain ⟨hdeclared, himplemented, hiff⟩ := nodup_methods_iff hclient
  refine ⟨client, hclient, hdeclared.trans (by decide +kernel), himplemented, fun hnodup => ?_⟩
  exact absurd (hiff.1 hnodup).1 (by decide)

/-- A service that lists operations of one name from two namespaces passes the checks, and its
client has the method of this name twice. -/
theorem not_nodup_methods_homonyms :
    let first : ShapeId := ⟨"a", "Get"⟩
    let second : ShapeId := ⟨"b", "Get"⟩
    let m := bareOperations first second (by decide) [first, second]
    m.validate (bareService [first, second]).id = .ok () ∧
      ∃ client, m.clientModule (bareService [first, second]) .rpcJson = .ok client ∧
        ¬ client.declaredMethods.Nodup := by
  intro first second m
  have hlisted : ∀ op ∈ [first, second], op = first ∨ op = second := by simp
  obtain ⟨client, hclient⟩ := exists_clientModule_bareOperations (by decide) hlisted
  refine ⟨validate_bareOperations _ hlisted, client, hclient, ?_⟩
  rw [(methods_clientModule hclient).1]
  decide

end Model

end ClientGen
