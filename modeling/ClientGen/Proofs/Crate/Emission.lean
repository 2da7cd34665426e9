import ClientGen.Crate.Emission
import ClientGen.Proofs.Protocol.Emission

/-!
# The modules of the types and of the client, as they are written

The calls that write all shapes of a model write the module of its types, and those for all
operations of a service the module of its client; they fail where making the module does. As no call
among them meets a scope that is not open, and the last of them finishes a module without open ones,
the scopes of a writer are never what goes wrong.
-/

namespace ClientGen

open Writer

namespace Writer

variable (w : Writer)

/-- A type without a module of its own asks for nothing, so that a line that names it is written as
if it stood alone. -/
theorem emit_need_ofName (name : String) (code : List Code) :
    w.emit (.need (.type (.ofName name "")) :: code) = w.emit code := by
  rw [emit_cons, emit_need]
  rfl

/-- The line of the variant for what a client does not know. -/
theorem write_unknown (docs name : String) :
    (w.writeDoc docs).write s!"{name}(String)," =
      w.emit (EnumVariant.code ⟨some docs, name, some (.ofName "String" "")⟩) := by
  have htext : ∀ s : Symbol, s.declaredType = "String" →
      s!"{name}({s.declaredType})," = s!"{name}(String)," := by
    intro s hs
    change name ++ "(" ++ s.declaredType ++ ")," = name ++ "(String),"
    rw [hs, String.append_assoc, String.append_assoc]
    rfl
  simp only [EnumVariant.code, List.cons_append, emit_need_ofName, htext (.ofName "String" "") rfl]
  exact emit_emit ..

end Writer

/-! ## Enums -/

namespace Shape

variable (s : Shape) (values : List EnumValue) (w : Writer)

theorem writeEnumType_eq :
    s.writeEnumType values w = .ok (w.emit (s.enumItem values).code) := by
  have hvalues : ∀ w : Writer, values.foldl (fun w v => w.write s!"{v.variant},") w =
      w.emit ((values.map fun v => (⟨none, v.variant, none⟩ : EnumVariant)).flatMap
        EnumVariant.code) := by
    intro w
    rw [List.flatMap_map]
    exact foldl_emit (fun _ _ => rfl) values w
  unfold writeEnumType
  dsimp only
  rw [hvalues, write_unknown, emit_emit, openEnum, closeScope_emit_openScope, writeDocs_eq,
    writeDerives_eq, bind_ok, writeBlank, emit_emit, emit_emit, emit_emit, enumItem, Item.code,
    List.flatMap_append]
  simp

theorem writeEnumValues_eq :
    s.writeEnumValues values w = .ok (w.emit (s.enumValues values).code) := by
  have harms : ∀ w : Writer, values.foldl (fun w v =>
      w.writeArm (.value (.source s!"Self::{v.variant}") (.literal v.value))) w =
      w.writeArms (values.map fun v =>
        .value (.source s!"Self::{v.variant}") (.literal v.value)) := by
    intro w
    rw [← foldl_writeArm, List.foldl_map]
  unfold writeEnumValues
  dsimp only
  rw [harms, writeArm_eq, writeArms_writeArms, closeScope_openMatch, bind_ok,
    closeScope_openMethod, bind_ok]
  simp only [writeDoc, writeConstant, write, writeBlank, emit_emit, openImpl,
    closeScope_emit_openScope, bind_ok, enumValues, Item.code, List.map_cons, List.map_nil,
    separated_cons]
  rfl

theorem writeEnumFrom_eq :
    s.writeEnumFrom values w = .ok (w.emit (s.enumFrom values).code) := by
  have harms : ∀ w : Writer, values.foldl (fun w v =>
      w.writeArm (.value (.literal v.value) (.source s!"Self::{v.variant}"))) w =
      w.writeArms (values.map fun v =>
        .value (.literal v.value) (.source s!"Self::{v.variant}")) := by
    intro w
    rw [← foldl_writeArm, List.foldl_map]
  unfold writeEnumFrom
  dsimp only
  rw [harms, writeArm_eq, writeArms_writeArms, closeScope_openMatch, bind_ok,
    closeScope_openMethod, bind_ok]
  simp only [openImpl, closeScope_emit_openScope, bind_ok, writeBlank, emit_emit]
  rfl

theorem writeEnumDisplay_eq : s.writeEnumDisplay w = .ok (w.emit s.enumDisplay.code) := by
  unfold writeEnumDisplay
  dsimp only
  rw [writeStmt_eq, closeScope_openMethod, bind_ok]
  simp only [openImpl, closeScope_emit_openScope, bind_ok, writeBlank, emit_emit]
  rfl

theorem writeEnum_eq :
    s.writeEnum values w = .ok (w.emit ((s.enumItems values).flatMap Item.code)) := by
  simp only [writeEnum, writeEnumType_eq, writeEnumValues_eq, writeEnumFrom_eq, writeEnumDisplay_eq,
    bind_ok, emit_emit, enumItems, List.flatMap_cons, List.flatMap_nil, List.append_nil]

end Shape

namespace Model

variable (m : Model) (s : Shape) (e : Member)

/-! ## Structures and unions -/

theorem emits_writeStructField : Emits (m.writeStructField s · e)
    ((do
      let symbol ← m.memberSymbol modelNamespace s.id e
      pure (⟨e.traits.documentation?, true, Naming.fieldName e.name, symbol⟩ : StructField)).map
      StructField.code) := by
  intro w
  change m.writeStructField s w e = _
  unfold writeStructField
  cases m.memberSymbol modelNamespace s.id e with
  | error err => rfl
  | ok symbol =>
    simp only [bind_ok, ← emit_need, writeDocs_eq, write, emit_emit]
    rfl

theorem emits_writeStructureType :
    Emits (m.writeStructureType s) ((m.structureItem s).map Item.code) := by
  intro w
  unfold writeStructureType structureItem
  dsimp only
  rw [Emits.foldlM (emits_writeStructField m s)]
  generalize List.mapM (m := Except GenerationError) _ s.members = fields
  cases fields with
  | error e => rfl
  | ok fields =>
    simp only [Except.map, bind_ok, openStruct, closeScope_emit_openScope, writeBlank, writeDocs_eq,
      recordDerives, writeDerives_eq, emit_emit]
    refine congrArg (Except.ok ∘ w.emit) ?_
    simp [Item.code]

theorem emits_writeUnionVariant : Emits (m.writeUnionVariant s · e)
    ((do
      let symbol ← m.memberSymbol modelNamespace s.id e
      pure (⟨e.traits.documentation?, Naming.typeName e.name, some symbol⟩ : EnumVariant)).map
      EnumVariant.code) := by
  intro w
  change m.writeUnionVariant s w e = _
  unfold writeUnionVariant
  cases m.memberSymbol modelNamespace s.id e with
  | error err => rfl
  | ok symbol =>
    simp only [bind_ok, ← emit_need, writeDocs_eq, write, emit_emit]
    rfl

theorem emits_writeUnionType :
    Emits (m.writeUnionType s) ((m.unionItem s).map Item.code) := by
  intro w
  unfold writeUnionType unionItem
  dsimp only
  rw [Emits.foldlM (emits_writeUnionVariant m s)]
  generalize List.mapM (m := Except GenerationError) _ s.members = variants
  cases variants with
  | error e => rfl
  | ok variants =>
    have hunknown : ∀ w : Writer, (w.writeDoc
        "A variant this client does not know, with its wire key.").write "Unknown(String)," =
        w.emit (EnumVariant.code ⟨some "A variant this client does not know, with its wire key.",
          "Unknown", some (.ofName "String" "")⟩) :=
      fun w => w.write_unknown _ "Unknown"
    simp only [Except.map, bind_ok, openEnum]
    rw [hunknown, emit_emit, closeScope_emit_openScope]
    simp only [bind_ok, writeBlank, writeDocs_eq, recordDerives, writeDerives_eq, emit_emit]
    refine congrArg (Except.ok ∘ w.emit) ?_
    simp [Item.code]

/-! ## The module of the types -/

/-- The calls for a shape write the text of its items. Each scope that they open they close. -/
theorem emits_writeShape (id : ShapeId) :
    Emits (m.writeShape · id) ((m.shapeItems id).map (·.flatMap Item.code)) := by
  intro w
  change m.writeShape w id = _
  unfold writeShape shapeItems
  cases m.resolveShape id (.stage "model generation") with
  | error err => rfl
  | ok s =>
    simp only [bind_ok]
    cases s.kind with
    | «structure» members =>
      dsimp only
      rw [emits_writeStructureType]
      cases m.structureItem s with
      | error err => rfl
      | ok type =>
        simp only [Except.map, bind_ok, s.writeCodingKeys_eq]
        rw [emits_writeStructureCodec]
        cases m.structureCodec s with
        | error err => rfl
        | ok codec => simp [Except.map, emit_emit]
    | union members => 
      dsimp only
      rw [emits_writeUnionType]
      cases m.unionItem s with
      | error err => rfl
      | ok type =>
        simp only [Except.map, bind_ok, s.writeCodingKeys_eq]
        rw [emits_writeUnionCodec]
        cases m.unionCodec s with
        | error err => rfl
        | ok codec => simp [Except.map, emit_emit]
    | enum values => exact s.writeEnum_eq values w
    | list element | set element | map key value | primitive p =>
      dsimp only
      cases m.symbol modelNamespace id with
      | error err => rfl
      | ok symbol => exact congrArg Except.ok (w.emit_need (.type symbol)).symm

/-- A module whose needs and items have been written is finished as its text. -/
theorem finalize_module (md : Module) :
    (((md.needs.foldl provide ((new md.ns).moduleDoc md.docs)).emit
      (md.items.flatMap Item.code))).finalize = .ok md.unit := by
  rw [foldl_provide, emit_emit]
  exact finalize_emit rfl _

theorem writeTypes_eq (shapes : List ShapeId) :
    m.writeTypes shapes = (m.typesModule shapes).map Module.unit := by
  unfold writeTypes typesModule
  dsimp only
  rw [Emits.foldlM (emits_writeShape m)]
  cases shapes.mapM m.shapeItems with
  | error e => rfl
  | ok items => 
    have hitems : items.flatMap (·.flatMap Item.code) = items.flatten.flatMap Item.code := by
      rw [← List.flatMap_id, List.flatMap_assoc]
      rfl
    simp only [Except.map, bind_ok, hitems]
    refine Eq.trans ?_ (finalize_module _)
    rfl

/-! ## Methods -/

variable {r : Registry} {p : Protocol} {o : OperationShapes}

theorem emits_writeMethodHead : Emits (m.writeMethodHead · o)
    ((do pure (⟨o.operation.documentation, ← m.methodSignature o⟩ : Method)).map Method.code) := by
  intro w
  change m.writeMethodHead w o = _
  unfold writeMethodHead provideSignature
  cases m.methodSignature o with
  | error err => rfl
  | ok signature =>
    simp only [bind_ok, foldl_register, writeDocs_eq, write, emit_emit]
    rfl

theorem writeStack_eq (operation : ShapeId) (stack : String) (w : Writer) :
    writeStack r operation stack w = (r.render operation stack).map w.writeStmts := by
  unfold writeStack Registry.render
  cases r.resolve with
  | error err => rfl
  | ok order =>
    rw [bind_ok, ← List.foldl_map, foldl_writeStmt]
    rfl

theorem writeRequest_eq (w : Writer) :
    m.writeRequest p o w = (m.bindRequest p o).map w.writeStmts := by
  cases p with
  | restJson => exact Call.writeRestRequest_eq w
  | rpcJson => exact congrArg Except.ok (Call.writeRpcRequest_eq w)

theorem emits_writeMethod :
    Emits (m.writeMethod p r · o) ((m.methodItem p r o).map Associated.code) := by
  intro w
  change m.writeMethod p r w o = _
  unfold writeMethod methodItem provideSignature
  cases m.methodSignature o with
  | error err => rfl
  | ok signature =>
    simp only [bind_ok, writeStack_eq]
    cases r.render o.operation.id "stack" with
    | error err => rfl
    | ok pushes =>
      simp only [Except.map, bind_ok, writeRequest_eq]
      cases m.bindRequest p o with
      | error err => rfl
      | ok request =>
        simp only [bind_ok, writeStmt_eq, foldl_writeStmt, writeStmts_writeStmts]
        exact closeScope_openFunction none false signature _ w

/-! ## The module of the client -/

theorem writeClientType_eq (s : Service) (w : Writer) :
    writeClientType s w = .ok (w.emit ((clientItems s).flatMap Item.code)) := by
  have hconfig : ∀ w : Writer, w.write "config: Config," =
      w.emit (StructField.code ⟨none, false, "config", .ofName "Config" ""⟩) :=
    fun w => (w.emit_need_ofName "Config" _).symm
  have htransport : ∀ w : Writer, w.write "transport: Box<dyn Transport>," =
      w.emit (StructField.code ⟨none, false, "transport", .ofName "Box<dyn Transport>" ""⟩) :=
    fun w => (w.emit_need_ofName "Box<dyn Transport>" _).symm
  have hnew := fun w : Writer => w.closeScope_openConstruct_false
    [("config", none), ("transport", some (.call "Box::new" [.source "transport"]))]
  simp only [List.foldl_cons, List.foldl_nil] at hnew
  unfold writeClientType
  dsimp only
  rw [hconfig, htransport, emit_emit, openStruct, closeScope_emit_openScope, bind_ok, hnew, bind_ok,
    closeScope_openMethod, bind_ok, writeStmt_eq, closeScope_openMethod, bind_ok]
  simp only [writeDoc, writeBlank, emit_emit, openImpl, closeScope_emit_openScope, bind_ok]
  rfl

/-- Call by call the module of the client is written with the text that its items have, or the
writing fails where making the items does: no call of the writer fails. -/
theorem writeClient_eq (s : Service) (p : Protocol) :
    m.writeClient s p = (m.clientModule s p).map Module.unit := by
  unfold writeClient clientModule
  dsimp only
  cases p.registry s.id.name with
  | error err => rfl
  | ok registry =>
    simp only [bind_ok]
    cases s.operations.mapM (m.operationShapes s) with
    | error err => rfl
    | ok operations =>
      simp only [bind_ok, writeInterface, writeImplementation, writeClientType_eq]
      rw [Emits.separated fun _ => emits_writeMethodHead m]
      generalize List.mapM (m := Except GenerationError) _ operations = signatures
      cases signatures with
      | error err => rfl
      | ok signatures =>
        simp only [Except.map, bind_ok, openInterface, closeScope_emit_openScope]
        rw [Emits.separated fun _ => emits_writeMethod m]
        cases operations.mapM (m.methodItem p registry) with
        | error err => rfl
        | ok methods =>
          simp only [Except.map, bind_ok]
          simp only [openImpl, closeScope_emit_openScope, bind_ok, writeBlank, writeDoc, emit_emit]
          refine Eq.trans ?_ (finalize_module _)
          simp [List.foldl_map, Item.code, docCode, provide]

end Model

end ClientGen
