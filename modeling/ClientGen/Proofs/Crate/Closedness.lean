import ClientGen.Proofs.Codec.AbsentValues
import ClientGen.Proofs.Crate.Blobs
import ClientGen.Proofs.Crate.TypeDefinitions

/-!
# The module of the data types is closed

Whatever the module refers to is there: a type of a member and the types inside it are always in
scope, defined in the module or imported, and so are the types that a default is made with. Codecs
decode values of defined types alone, and make values of these, of JSON and of variants.
-/

namespace ClientGen

/-! ## Types -/

/-- The module can name the type: it is always in scope, it is one of the data types that the module
defines, or it is imported. -/
def Module.CanName (t : Module) (ns definition : String) : Prop :=
  ns = "" ∨ (ns = modelNamespace ∧ definition ∈ t.definedTypes) ∨
    t.writer.isImported ns definition = true

/-- A shape with a type defines it, and the type of its keys if it is a structure or union. -/
theorem Shape.definedTypes_eq (s : Shape) : s.definedTypes =
    (if s.hasType then [s.generatedName] else []) ++
      if s.isRecord then [s.codingKeysName] else [] := by
  unfold definedTypes hasType isRecord isStructure isUnion
  cases s.kind <;> rfl

theorem Shape.hasType_of_isRecord {s : Shape} (h : s.isRecord = true) : s.hasType = true := by
  unfold isRecord isStructure isUnion at h
  unfold hasType
  cases hkind : s.kind with
  | «structure» | union | enum => rfl
  | _ =>
    rw [hkind] at h
    cases h

namespace Model

variable {m : Model} {ids : List ShapeId} {t : Module} {s : Shape} {e : Member} {symbol : Symbol}

theorem mem_definedTypes_module (ht : m.typesModule ids = .ok t) (hs : m.IsAmong ids s)
    (htype : s.hasType = true) : s.generatedName ∈ t.definedTypes := by
  rw [definedTypes_typesModule ht]
  refine List.mem_flatMap.2 ⟨s.id, hs.mem, ?_⟩
  rw [typesOf_eq hs.shape]
  exact Shape.mem_definedTypes.2 ⟨htype, .inl rfl⟩

/-- The type of a member is needed where the type of its owner is defined. -/
theorem exists_need_memberSymbol (ht : m.typesModule ids = .ok t) (hs : m.IsAmong ids s)
    (hrecord : s.isRecord = true) (he : e ∈ s.members) : ∃ symbol : Symbol,
      m.memberSymbol modelNamespace s.id e = .ok symbol ∧ .type symbol ∈ t.allNeeds := by
  obtain ⟨items, hitems, hmem⟩ := exists_shapeItems ht hs.mem
  rw [shapeItems, ok_bind (resolveShape_eq_ok.2 hs.shape)] at hitems
  unfold Shape.isRecord Shape.isStructure Shape.isUnion at hrecord
  cases hkind : s.kind with
  | «structure» ms =>
    rw [hkind] at hitems
    obtain ⟨type, htype, hitems⟩ := bind_eq_ok.1 hitems
    obtain ⟨codec, -, hitems⟩ := bind_eq_ok.1 hitems
    obtain rfl := Except.ok.inj hitems
    obtain ⟨fields, hfields, htype⟩ := bind_eq_ok.1 htype
    obtain rfl := Except.ok.inj htype
    obtain ⟨f, hf, hfield⟩ := exists_of_mem_mapM hfields e he
    obtain ⟨symbol, hsymbol, hfield⟩ := bind_eq_ok.1 hfield
    obtain rfl := Except.ok.inj hfield
    exact ⟨symbol, hsymbol, Module.mem_allNeeds_of_mem_items (hmem _ List.mem_cons_self)
      (List.mem_map.2 ⟨_, hf, rfl⟩)⟩
  | union ms =>
    rw [hkind] at hitems
    obtain ⟨type, htype, hitems⟩ := bind_eq_ok.1 hitems
    obtain ⟨codec, -, hitems⟩ := bind_eq_ok.1 hitems
    obtain rfl := Except.ok.inj hitems
    obtain ⟨variants, hvariants, htype⟩ := bind_eq_ok.1 htype
    obtain rfl := Except.ok.inj htype
    obtain ⟨v, hv, hvariant⟩ := exists_of_mem_mapM hvariants e he
    obtain ⟨symbol, hsymbol, hvariant⟩ := bind_eq_ok.1 hvariant
    obtain rfl := Except.ok.inj hvariant
    refine ⟨symbol, hsymbol, Module.mem_allNeeds_of_mem_items (hmem _ List.mem_cons_self) ?_⟩
    exact List.mem_flatMap.2 ⟨_, List.mem_append_left _ hv, List.mem_singleton_self _⟩
  | _ =>
    rw [hkind] at hrecord
    cases hrecord

/-- Of the types of shapes, the generated ones are defined in the module of their own. -/
theorem hasType_of_head {p : Symbol} (hhead : p.head = s.head modelNamespace)
    (hns : p.ns = modelNamespace) : s.hasType = true ∧ p.definition = s.generatedName := by
  change p.head.ns = modelNamespace at hns
  change s.hasType = true ∧ p.head.definition = s.generatedName
  rw [hhead] at hns ⊢
  have hforeign : "" ≠ modelNamespace ∧ "std::collections" ≠ modelNamespace := by decide
  unfold Shape.head Shape.hasType at *
  cases hkind : s.kind with
  | «structure» | union | enum =>
    dsimp only
    exact ⟨rfl, rfl⟩
  | list | set =>
    rw [hkind] at hns
    exact absurd hns hforeign.1
  | map =>
    rw [hkind] at hns
    exact absurd hns hforeign.2
  | primitive p =>
    rw [hkind] at hns
    have hprimitive : p.symbol.ns ≠ modelNamespace := by cases p <;> decide
    exact absurd hns hprimitive

/-- In a module of types, a type of a shape can be named where it is needed. -/
theorem canName_of_hasHead (ht : m.typesModule ids = .ok t) (hneed : .type symbol ∈ t.allNeeds)
    {part : Symbol} (hpart : part ∈ symbol.parts) (hhead : m.HasHead ids modelNamespace part.head) :
    t.CanName part.ns part.definition := by
  by_cases hempty : part.ns = ""
  · exact .inl hempty
  by_cases hown : part.ns = modelNamespace
  · obtain ⟨s, hs, hhead⟩ := hhead
    obtain ⟨htype, hdefinition⟩ := hasType_of_head hhead hown
    exact .inr (.inl ⟨hown, hdefinition ▸ mem_definedTypes_module ht hs htype⟩)
  · have hns : t.ns = modelNamespace := by
      obtain ⟨items, -, ht⟩ := bind_eq_ok.1 ht
      obtain rfl := Except.ok.inj ht
      rfl
    have himport : ⟨part.ns, part.definition, none⟩ ∈ t.writer.imports :=
      Module.mem_imports.2 ⟨hempty, hns ▸ hown, _, hneed, List.mem_map.2 ⟨part, hpart, rfl⟩⟩
    exact .inr (.inr (List.any_eq_true.2 ⟨_, himport, by simp⟩))

/-! ## Defaults -/

/-- An expression for an absent value that names no type but such types, and the type of texts. -/
inductive IsClosedDefault (types : List String) : String → Prop
  | none : IsClosedDefault types "None"
  | ofType : IsClosedDefault types "Default::default()"
  | scalar {p : Primitive} {v : Json.Value} {expr : String} (h : p.literal? v = some expr) :
    IsClosedDefault types expr
  | variant {type : String} (text : String) (h : type ∈ types) :
    IsClosedDefault types s!"{type}::from({Text.literal text})"
  | list : IsClosedDefault types "Vec::new()"
  | map : IsClosedDefault types "HashMap::new()"
  | boxed {expr : String} (h : IsClosedDefault types expr) :
    IsClosedDefault types s!"Box::new({expr})"

theorem isClosedDefault_defaultExpr? (ht : m.typesModule ids = .ok t) (hs : m.IsAmong ids s)
    {v : Json.Value} {expr : String} (h : s.defaultExpr? v = some expr) :
    IsClosedDefault t.definedTypes expr := by
  have htype (values : List EnumValue) (hkind : s.kind = .enum values) :
      s.generatedName ∈ t.definedTypes :=
    mem_definedTypes_module ht hs (by simp [Shape.hasType, hkind])
  unfold Shape.defaultExpr? at h
  split at h
  · exact .scalar h
  · rename_i hkind
    obtain rfl := Option.some.inj h
    exact .variant _ (htype _ hkind)
  · obtain rfl := Option.some.inj h
    exact .list
  · obtain rfl := Option.some.inj h
    exact .list
  · obtain rfl := Option.some.inj h
    exact .map
  · cases h

/-- What the decoder of a structure gives for an absent member names no other types. -/
theorem isClosedDefault_absentValue (h : m.IsClosed ids) (ht : m.typesModule ids = .ok t)
    (hs : m.IsAmong ids s) (hstructure : s.isStructure = true) (he : e ∈ s.members)
    (hsymbol : m.memberSymbol modelNamespace s.id e = .ok symbol) :
    IsClosedDefault t.definedTypes symbol.absentValue := by
  unfold Symbol.absentValue
  rcases memberSymbol_absence hs.shape hstructure hsymbol with
    ⟨hnullable, hfallback, -⟩ | ⟨hnullable, -⟩
  · rw [hnullable, hfallback]
    cases hsupplied : m.suppliedExpr? e with
    | none => exact .ofType
    | some expr =>
      have hexpr : IsClosedDefault t.definedTypes expr := by
        obtain ⟨target, htarget⟩ := h.defined e.target (hs.target h he)
        have hamong : m.IsAmong ids target := isAmong_of_shape? (hs.target h he) htarget
        unfold suppliedExpr? at hsupplied
        rw [htarget] at hsupplied
        dsimp only at hsupplied
        split at hsupplied
        · exact isClosedDefault_defaultExpr? ht hamong hsupplied
        · unfold Shape.suppliedExpr? at hsupplied
          split at hsupplied
          · cases hsupplied
          · obtain ⟨v, -, hsupplied⟩ := Option.bind_eq_some_iff.1 hsupplied
            exact isClosedDefault_defaultExpr? ht hamong hsupplied
      change IsClosedDefault t.definedTypes (boxedExpr (m.needsBox s.id e.name) expr)
      cases m.needsBox s.id e.name with
      | true => exact .boxed hexpr
      | false => exact hexpr
  · rw [hnullable]
    exact .none

end Model

/-! ## Functions -/

/-- Texts that end in different ways are different. -/
theorem append_ne_append {a b c d : String} (h : ¬ b.toList <:+ d.toList)
    (h' : ¬ d.toList <:+ b.toList) : a ++ b ≠ c ++ d := by
  intro heq
  have hlist : a.toList ++ b.toList = c.toList ++ d.toList := by
    rw [← String.toList_append, heq, String.toList_append]
  rcases List.suffix_or_suffix_of_suffix (List.suffix_append a.toList b.toList)
    (hlist ▸ List.suffix_append c.toList d.toList) with hsuffix | hsuffix
  · exact h hsuffix
  · exact h' hsuffix

/-- Of the common functions, one is called `from`, and none is called `decode`. -/
theorem type_of_mem_commonFunctions {type f : String} (hf : f ∈ commonFunctions)
    (h : f = type ++ "::decode" ∨ f = type ++ "::from") : type = "serde_json::Value" := by
  have hends {last : String} : last.toList <:+ (type ++ last).toList := by
    rw [String.toList_append]
    exact List.suffix_append _ _
  have hcommon : ∀ f ∈ commonFunctions, ¬ "::decode".toList <:+ f.toList ∧
      ("::from".toList <:+ f.toList → f = "serde_json::Value" ++ "::from") := by
    decide +kernel
  rcases h with rfl | rfl
  · exact absurd hends (hcommon _ hf).1
  · exact (String.append_left_inj _).1 ((hcommon _ hf).2 hends)

/-- A function of a shape that is called `decode` or `from` is one of its type, or makes a variant.
-/
theorem Shape.type_of_mem_functions {s : Shape} {type f : String} (hf : f ∈ s.functions)
    (h : f = type ++ "::decode" ∨ f = type ++ "::from") :
    (s.hasType = true ∧ type = s.generatedName) ∨ ∃ variant : String, f = "Self::" ++ variant := by
  have hcommon (type' last : String) (hlast : ¬ "::decode".toList <:+ last.toList ∧
      ¬ last.toList <:+ "::decode".toList ∧ ¬ "::from".toList <:+ last.toList ∧
      ¬ last.toList <:+ "::from".toList) : f ≠ type' ++ last := by
    rcases h with rfl | rfl
    · exact append_ne_append hlast.1 hlast.2.1
    · exact append_ne_append hlast.2.2.1 hlast.2.2.2
  rcases mem_functions_cases hf with
    ⟨hrecord, hf⟩ | ⟨-, hf⟩ | ⟨⟨values, hkind⟩, hf⟩ | hvariant | ⟨-, hf | hf⟩
  · refine .inl ⟨hasType_of_isRecord hrecord, ?_⟩
    subst hf
    rcases h with h | h
    · exact ((String.append_left_inj _).1 h).symm
    · exact absurd h (append_ne_append (by decide) (by decide))
  · exact absurd hf (hcommon _ "::from_wire" (by decide))
  · refine .inl ⟨by rw [hasType, hkind], ?_⟩
    subst hf
    rcases h with h | h
    · exact absurd h (append_ne_append (by decide) (by decide))
    · exact ((String.append_left_inj _).1 h).symm
  · exact .inr hvariant
  · exact absurd hf (hcommon "" "wire::decode_blob" (by decide))
  · exact absurd hf (hcommon "" "wire::encode_blob" (by decide))

namespace Model

variable {m : Model} {ids : List ShapeId} {t : Module}

/-- The module of the data types of a validated model is closed. It defines a type for each
structure, union and enum that the service reaches, with a type for the keys of each structure and
union, and none for other shapes. It can name the type of each member and all types inside it, and
the default that a decoder gives for the member names no other type than these and `String`. Where a
function calls `decode` or `from` of a type, the module defines the type, it is `Value` of the
package for JSON, or the call makes a variant. -/
theorem typesModule_closed {service : ShapeId} (hvalid : m.validate service = .ok ())
    (hids : m.reachable service = .ok ids) (ht : m.typesModule ids = .ok t) :
    (t.definedTypes = ids.flatMap m.typesOf ∧ ∀ id ∈ ids, ∃ s, m.shape? id = some s ∧
      m.typesOf id = (if s.hasType then [s.generatedName] else []) ++
        if s.isRecord then [s.codingKeysName] else []) ∧
    (∀ id ∈ ids, ∀ s, m.shape? id = some s → s.isRecord = true → ∀ e ∈ s.members,
      ∃ symbol, m.memberSymbol modelNamespace id e = .ok symbol ∧
        (∀ part ∈ symbol.parts, t.CanName part.ns part.definition) ∧
        (s.isStructure = true → IsClosedDefault t.definedTypes symbol.absentValue)) ∧
    ∀ body ∈ t.bodies, ∀ f, CallsIn f body → ∀ type : String,
      f = s!"{type}::decode" ∨ f = s!"{type}::from" →
        type ∈ t.definedTypes ∨ type = "serde_json::Value" ∨
          ∃ variant : String, f = s!"Self::{variant}" := by
  obtain ⟨s, ids', -, hids', hsound, -⟩ := validate_ok hvalid
  obtain rfl := Except.ok.inj (hids.symm.trans hids')
  have hclosed := hsound.toIsClosed
  refine ⟨⟨definedTypes_typesModule ht, fun id hid => ?_⟩, fun id hid s hs hrecord e he => ?_,
    fun body hbody f hcall type hf => ?_⟩
  · obtain ⟨s, hs⟩ := hclosed.defined id hid
    exact ⟨s, hs, (typesOf_eq hs).trans s.definedTypes_eq⟩
  · have hamong : m.IsAmong ids s := isAmong_of_shape? hid hs
    obtain rfl := id_of_shape? hs
    obtain ⟨symbol, hsymbol, hneed⟩ := exists_need_memberSymbol ht hamong hrecord he
    have hheads := headsAre_memberSymbol hclosed hamong he hsymbol
    exact ⟨symbol, hsymbol, fun part hpart => canName_of_hasHead ht hneed hpart (hheads part hpart),
      fun hstructure => isClosedDefault_absentValue hclosed ht hamong hstructure he hsymbol⟩
  · obtain ⟨x, hx, hbody⟩ := List.mem_flatMap.1 hbody
    rcases (keepsTo_typesModule hclosed ht x hx body hbody).of_callsIn hcall with
      hcommon | ⟨s, hs, hfunction⟩
    · exact .inr (.inl (type_of_mem_commonFunctions hcommon hf))
    · rcases Shape.type_of_mem_functions hfunction hf with ⟨htype, rfl⟩ | hvariant
      · exact .inl (mem_definedTypes_module ht hs htype)
      · exact .inr (.inr hvariant)

/-- The module of an upload imports the type of a point in time. -/
theorem typesModule_closed_upload :
    uploadModel.validate uploadService.id = .ok () ∧
      uploadModel.reachable uploadService.id = .ok uploadShapes ∧
      ∃ t, uploadModel.typesModule uploadShapes = .ok t ∧
        t.definedTypes = uploadShapes.flatMap uploadModel.typesOf ∧
        ∀ e ∈ upload.members, ∃ symbol,
          uploadModel.memberSymbol modelNamespace upload.id e = .ok symbol ∧
            (∀ part ∈ symbol.parts, t.CanName part.ns part.definition) ∧
            IsClosedDefault t.definedTypes symbol.absentValue := by
  obtain ⟨t, ht⟩ := exists_typesModule_uploadModel
  obtain ⟨⟨htypes, -⟩, hmembers, -⟩ :=
    typesModule_closed validate_uploadModel reachable_uploadModel ht
  refine ⟨validate_uploadModel, reachable_uploadModel, t, ht, htypes, fun e he => ?_⟩
  obtain ⟨symbol, hsymbol, hparts, hdefault⟩ :=
    hmembers upload.id (by decide) upload shape?_upload rfl e he
  exact ⟨symbol, hsymbol, hparts, hdefault rfl⟩

/-- Its codec makes values of types that the module does not define: texts become values of JSON,
and the name that is not given becomes a `String`. -/
theorem not_defined_upload :
    uploadModel.validate uploadService.id = .ok () ∧
      uploadModel.reachable uploadService.id = .ok uploadShapes ∧
      ∃ t, uploadModel.typesModule uploadShapes = .ok t ∧
        t.definedTypes = ["Upload", "UploadCodingKeys"] ∧
        ¬ (∀ body ∈ t.bodies, ∀ type : String, CallsIn s!"{type}::from" body →
          type ∈ t.definedTypes) ∧
        ∃ e ∈ upload.members, ∃ symbol,
          uploadModel.memberSymbol modelNamespace upload.id e = .ok symbol ∧
            symbol.absentValue = "String::from(\"untitled\")" := by
  obtain ⟨t, ht⟩ := exists_typesModule_uploadModel
  have htypes : t.definedTypes = ["Upload", "UploadCodingKeys"] :=
    (definedTypes_typesModule ht).trans (by decide +kernel)
  refine ⟨validate_uploadModel, reachable_uploadModel, t, ht, htypes, fun hdefined => ?_,
    ⟨"name", uploadName.id, false, [.default (.string "untitled")]⟩, by decide, ?_⟩
  · obtain ⟨encoder, hencoder, hstmts⟩ :=
      exists_encoder ht (isAmong_of_shape? (by decide) shape?_upload) rfl
    have hcall : CallsIn "serde_json::Value::from" encoder :=
      callsIn_structureEncoder
        (e := ⟨"name", uploadName.id, false, [.default (.string "untitled")]⟩) (by decide)
        shape?_uploadName rfl (fun source => ⟨_, List.mem_cons_self, .call _⟩) hstmts
    have hmem := hdefined encoder hencoder "serde_json::Value" hcall
    rw [htypes] at hmem
    exact absurd hmem (by decide)
  · have hbox : uploadModel.needsBox upload.id "name" = false := by
      have hscalars : ∀ e ∈ upload.members, uploadModel.isRecord e.target = false := by decide
      rw [Bool.eq_false_iff, Ne, needsBox_iff]
      rintro ⟨e, ⟨s, hs, -, he, hrecord⟩, -⟩
      obtain rfl := Option.some.inj (shape?_upload.symm.trans hs)
      exact absurd hrecord (Bool.eq_false_iff.1 (hscalars e he))
    rw [memberSymbol, ok_bind (symbol_uploadModel shape?_uploadName rfl rfl), refineSymbol,
      ok_bind (resolveShape_eq_ok.2 shape?_upload)]
    refine ⟨_, rfl, ?_⟩
    rw [hbox]
    decide +kernel

end Model

end ClientGen
