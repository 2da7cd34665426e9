import ClientGen.Crate.Basic
import ClientGen.Proofs.Code.Needs
import ClientGen.Proofs.Codec.Locals
import ClientGen.Proofs.Crate.Calls
import ClientGen.Proofs.Crate.Faults
import ClientGen.Proofs.Graph.CycleReports
import ClientGen.Proofs.Model.Loading

/-!
# Binary data in a crate

The module of the wire has the helpers for binary data only where the module of the types or that of
the client depends on the package for them. One of them does exactly if one of the shapes that the
service reaches is binary data, so that no function calls a helper that is not there.
-/

namespace ClientGen

/-! ## Helpers -/

/-- The module has a public function with the name. -/
def Support.Defines (s : Support) (f : String) : Prop :=
  ∃ (rest : String) (body : List Code), Code.block s!"pub fn {f}({rest}" body "\x7d" ∈ s.code

/-- The names of the helpers for binary data. -/
def blobHelpers : List String := ["decode_blob", "encode_blob"]

theorem Support.defines_wire {f : String} (hf : f ∈ blobHelpers) : (wire true).Defines f := by
  have hblobs : ∀ c ∈ blobs, c ∈ (wire true).code := fun c hc => List.mem_append_right _ hc
  rcases List.mem_cons.1 hf with rfl | hf
  · exact ⟨"value: &Value) -> Result<Vec<u8>, DecodeError> \x7b", _,
      hblobs _ List.mem_cons_self⟩
  · obtain rfl := List.mem_singleton.1 hf
    exact ⟨"value: &[u8]) -> Value \x7b", _,
      hblobs _ (List.mem_cons_of_mem _ (List.mem_singleton_self _))⟩

theorem getLast?_append_toList (a : String) {b : String} {c : Char}
    (h : b.toList.getLast? = some c) : (a ++ b).toList.getLast? = some c := by
  rw [String.toList_append, List.getLast?_append, h]
  rfl

/-- The helpers are functions of binary data and of no other shapes: those start with another letter
or end with one. -/
theorem Shape.kind_of_blobHelper {s : Shape} {f : String} (hf : f ∈ blobHelpers)
    (h : s!"wire::{f}" ∈ s.functions) : s.kind = .primitive .blob := by
  have hends : (s!"wire::{f}").toList.head? = some 'w' ∧
      (s!"wire::{f}").toList.getLast? = some 'b' := by
    rcases List.mem_cons.1 hf with rfl | hf
    · decide
    · obtain rfl := List.mem_singleton.1 hf
      decide
  have hlast {a b : String} {c : Char} (hb : b.toList.getLast? = some c) (hc : c ≠ 'b') :
      s!"wire::{f}" ≠ a ++ b := by
    intro heq
    have hsame := hends.2.symm.trans (heq ▸ getLast?_append_toList a hb)
    exact hc (Option.some.inj hsame).symm
  have hfirst (b : String) : s!"wire::{f}" ≠ "Self::" ++ b := by
    intro heq
    have hsame : ("Self::" ++ b).toList.head? = some 'w' := heq ▸ hends.1
    rw [String.toList_append] at hsame
    cases hsame
  rcases mem_functions_cases h with
    ⟨-, heq⟩ | ⟨-, heq⟩ | ⟨-, heq⟩ | ⟨variant, heq⟩ | ⟨hkind, -⟩
  · exact absurd heq (hlast (c := 'e') (by decide) (by decide))
  · exact absurd heq (hlast (c := 'e') (by decide) (by decide))
  · exact absurd heq (hlast (c := 'm') (by decide) (by decide))
  · exact absurd heq (hfirst variant)
  · exact hkind

namespace Model

variable {m : Model} {ids : List ShapeId} {t client : Module}

theorem not_mem_commonFunctions {f : String} (hf : f ∈ blobHelpers) :
    s!"wire::{f}" ∉ commonFunctions := by
  rcases List.mem_cons.1 hf with rfl | hf
  · decide
  · obtain rfl := List.mem_singleton.1 hf
    decide

/-- One of the shapes is binary data. -/
def HasBlob (m : Model) (ids : List ShapeId) : Prop :=
  ∃ s, m.IsAmong ids s ∧ s.kind = .primitive .blob

theorem hasBlob_of_mayCall {f : String} (hf : f ∈ blobHelpers)
    (h : m.MayCall ids s!"wire::{f}") : m.HasBlob ids := by
  rcases h with h | ⟨s, hs, h⟩
  · exact absurd h (not_mem_commonFunctions hf)
  · exact ⟨s, hs, Shape.kind_of_blobHelper hf h⟩

/-! ## Packages -/

theorem eq_blob_of_base64_mem {p : Primitive} : .base64 ∈ p.symbol.dependencies → p = .blob := by
  cases p <;> decide

theorem kind_of_base64_mem {s : Shape} (ns : String) (h : .base64 ∈ (s.head ns).dependencies) :
    s.kind = .primitive .blob := by
  unfold Shape.head at h
  cases hkind : s.kind with
  | primitive p =>
    rw [hkind] at h
    rw [eq_blob_of_base64_mem h]
  | _ =>
    rw [hkind] at h
    cases h

/-- Only a blob of the closure makes anything need the package for base64. -/
theorem hasBlob_of_isKnownNeed {n : Need} (h : m.IsKnownNeed ids n)
    (hn : .base64 ∈ n.dependencies) : m.HasBlob ids := by
  cases n with
  | item => cases hn
  | package d =>
    obtain rfl : d = .json := h
    exact absurd hn (by decide)
  | type symbol =>
    obtain ⟨part, hpart, hn⟩ := List.mem_flatMap.1 hn
    rcases h part hpart with ⟨s, hs, hhead⟩ | ⟨-, hnone⟩
    · refine ⟨s, hs, kind_of_base64_mem modelNamespace ?_⟩
      rw [← hhead]
      exact hn
    · rw [show part.dependencies = [] from hnone] at hn
      cases hn

/-- The module of the types needs the package for the binary data that is among the shapes. -/
theorem base64_mem_typesModule (ht : m.typesModule ids = .ok t) (h : m.HasBlob ids) :
    .base64 ∈ t.unit.dependencies := by
  obtain ⟨s, hs, hkind⟩ := h
  obtain ⟨items, hitems, hmem⟩ := exists_shapeItems ht hs.mem
  rw [shapeItems, ok_bind (resolveShape_eq_ok.2 hs.shape), hkind] at hitems
  obtain ⟨symbol, hsymbol, hitems⟩ := bind_eq_ok.1 hitems
  obtain rfl := Except.ok.inj hitems
  rw [symbol_shape hs.shape] at hsymbol
  have hdependencies : symbol.dependencies = (s.head modelNamespace).dependencies :=
    congrArg TypeHead.dependencies (Shape.head_symbolWith hsymbol).1
  refine Module.mem_dependencies.2 ⟨.type symbol, Module.mem_allNeeds_of_mem_items
    (hmem _ (List.mem_singleton_self _)) (List.mem_singleton_self _),
      List.mem_flatMap.2 ⟨symbol, ?_, ?_⟩⟩
  · rw [Symbol.parts_eq]
    exact List.mem_cons_self
  · rw [hdependencies, Shape.head, hkind]
    exact List.mem_singleton_self _

/-- One of the modules depends on the package for binary data exactly if there is some. -/
theorem contains_base64_iff (h : m.IsClosed ids) {service : Service}
    (hservice : m.HasOperations service ids) (ht : m.typesModule ids = .ok t) {p : Protocol}
    (hclient : m.clientModule service p = .ok client) :
    (t.unit.dependencies.contains .base64 || client.unit.dependencies.contains .base64) = true ↔
      m.HasBlob ids := by
  rw [Bool.or_eq_true, List.contains_iff_mem, List.contains_iff_mem]
  constructor
  · rintro (hmem | hmem)
    · obtain ⟨n, hn, hneeded⟩ := Module.mem_dependencies.1 hmem
      exact hasBlob_of_isKnownNeed (isKnownNeed_typesModule h ht n hn) hneeded
    · obtain ⟨n, hn, hneeded⟩ := Module.mem_dependencies.1 hmem
      exact hasBlob_of_isKnownNeed (isKnownNeed_clientModule h hservice hclient n hn) hneeded
  · exact fun hblob => .inl (base64_mem_typesModule ht hblob)

/-! ## Crates -/

theorem dependencies_formatted {u : SourceUnit} {f : FormattedUnit} (h : u.formatted = .ok f) :
    f.dependencies = u.dependencies := by
  unfold SourceUnit.formatted at h
  split at h
  · cases h
  · split at h
    · cases h
    · obtain rfl := Except.ok.inj h
      rfl

/-- A crate handles binary data exactly if one of the modules that it is made of depends on the
package for it. -/
theorem hasBlobs_clientCrate {settings : Settings} {c : ClientCrate}
    (h : m.clientCrate settings = .ok c) : ∃ ids types client,
      m.validate settings.service = .ok () ∧ m.service? settings.service = some c.service ∧
      m.reachable settings.service = .ok ids ∧ m.typesModule ids = .ok types ∧
      m.clientModule c.service c.protocol = .ok client ∧
      c.hasBlobs = (types.unit.dependencies.contains .base64
        || client.unit.dependencies.contains .base64) := by
  obtain ⟨⟨⟩, -, h⟩ := bind_eq_ok.1 h
  obtain ⟨⟨⟩, hvalid, h⟩ := bind_eq_ok.1 h
  obtain ⟨service, hservice, h⟩ := bind_eq_ok.1 h
  dsimp only at h
  split at h
  · obtain ⟨protocol, hprotocol, h⟩ := bind_eq_ok.1 h
    obtain ⟨ids, hids, h⟩ := bind_eq_ok.1 h
    obtain ⟨types, htypes, h⟩ := bind_eq_ok.1 h
    obtain ⟨client, hclient, h⟩ := bind_eq_ok.1 h
    obtain ⟨config, hconfig, h⟩ := bind_eq_ok.1 h
    obtain ⟨clientUnit, hclientUnit, h⟩ := bind_eq_ok.1 h
    obtain ⟨configUnit, hconfigUnit, h⟩ := bind_eq_ok.1 h
    obtain ⟨typesUnit, htypesUnit, h⟩ := bind_eq_ok.1 h
    obtain rfl := Except.ok.inj h
    have hs := resolveService_eq_ok.1 hservice
    have hid : service.id = settings.service := (Catalog.get?_eq_some_iff.1 hs).2
    rw [hid] at hids
    refine ⟨ids, types, client, hvalid, hs, hids, htypes, hclient, ?_⟩
    rw [ClientCrate.hasBlobs, dependencies_formatted htypesUnit, dependencies_formatted hclientUnit]
  · cases h

def uploadData : Shape := ⟨⟨"store", "Data"⟩, .primitive .blob, []⟩

def uploadName : Shape := ⟨⟨"store", "Name"⟩, .primitive .string, []⟩

/-- The time at which it was sent. -/
def uploadTime : Shape := ⟨⟨"store", "Time"⟩, .primitive .timestamp, []⟩

/-- Binary data that has a name without being given one. -/
def upload : Shape := ⟨⟨"store", "Upload"⟩, .structure [⟨"data", uploadData.id, false, []⟩,
  ⟨"name", uploadName.id, false, [.default (.string "untitled")]⟩,
  ⟨"sent", uploadTime.id, false, []⟩], []⟩

def uploadOperation : Operation := ⟨⟨"store", "Put"⟩, some upload.id, none, none, none⟩

def uploadService : Service := ⟨⟨"store", "Store"⟩, "1", [uploadOperation.id], none, none⟩

def uploadModel : Model :=
  ⟨⟨[uploadData, uploadName, uploadTime, upload], by decide⟩, ⟨[uploadOperation], by decide⟩,
    ⟨[uploadService], by decide⟩⟩

def uploadShapes : List ShapeId := [uploadData.id, uploadName.id, uploadTime.id, upload.id]

theorem shape?_uploadData : uploadModel.shape? uploadData.id = some uploadData := by decide

theorem shape?_uploadName : uploadModel.shape? uploadName.id = some uploadName := by decide

theorem shape?_uploadTime : uploadModel.shape? uploadTime.id = some uploadTime := by decide

theorem shape?_upload : uploadModel.shape? upload.id = some upload := by decide

theorem reachable_uploadModel : uploadModel.reachable uploadService.id = .ok uploadShapes := by
  have htime : SortedSet.insert uploadTime.id [upload.id] = [uploadTime.id, upload.id] := by decide
  have hname : SortedSet.insert uploadName.id [uploadTime.id, upload.id] =
      [uploadName.id, uploadTime.id, upload.id] := by decide
  have hdata : SortedSet.insert uploadData.id [uploadName.id, uploadTime.id, upload.id] =
      uploadShapes := by decide
  change uploadModel.closure [] [(upload.id, .operation uploadOperation.id)] = _
  rw [closure_new (by decide) shape?_upload]
  change uploadModel.closure [upload.id] [(uploadTime.id, .member upload.id "sent"),
    (uploadName.id, .member upload.id "name"), (uploadData.id, .member upload.id "data")] = _
  rw [closure_new (by decide) shape?_uploadTime, htime]
  change uploadModel.closure _ [(uploadName.id, .member upload.id "name"), _] = _
  rw [closure_new (by decide) shape?_uploadName, hname]
  change uploadModel.closure _ [(uploadData.id, .member upload.id "data")] = _
  rw [closure_new (by decide) shape?_uploadData, hdata]
  exact closure_nil

theorem validate_uploadModel : uploadModel.validate uploadService.id = .ok () := by
  have hchecks : uploadModel.PassesLocalChecks uploadService.id uploadService uploadShapes :=
    ⟨by decide, by decide, reachable_uploadModel, by decide⟩
  refine hchecks.validate_of_leaves fun id hid t ht => ?_
  obtain rfl | rfl | rfl | rfl : id = uploadData.id ∨ id = uploadName.id ∨ id = uploadTime.id ∨
      id = upload.id := by simpa [uploadShapes] using hid
  · obtain rfl := Option.some.inj (shape?_uploadData.symm.trans ht)
    decide
  · obtain rfl := Option.some.inj (shape?_uploadName.symm.trans ht)
    decide
  · obtain rfl := Option.some.inj (shape?_uploadTime.symm.trans ht)
    decide
  · obtain rfl := Option.some.inj (shape?_upload.symm.trans ht)
    decide

/-- The scalars have the symbols of their types. -/
theorem symbol_uploadModel {id : ShapeId} {s : Shape} {p : Primitive}
    (hs : uploadModel.shape? id = some s) (hkind : s.kind = .primitive p)
    (htraits : s.traits = []) : uploadModel.symbol modelNamespace id = .ok p.symbol := by
  rw [symbol_shape hs, Shape.symbolWith, hkind]
  simp [Shape.scalarSymbol, Shape.finishSymbol, htraits, Traits.default?, Traits.isBoxed,
    Except.map]

theorem exists_memberSymbol_uploadModel : ∀ e ∈ upload.members,
    ∃ symbol, uploadModel.memberSymbol modelNamespace upload.id e = .ok symbol := by
  have hdata := symbol_uploadModel shape?_uploadData rfl rfl
  have hname := symbol_uploadModel shape?_uploadName rfl rfl
  have htime := symbol_uploadModel shape?_uploadTime rfl rfl
  refine List.forall_mem_cons.2 ⟨exists_memberSymbol shape?_upload rfl ⟨_, hdata⟩,
    List.forall_mem_cons.2 ⟨?_,
      List.forall_mem_singleton.2 (exists_memberSymbol shape?_upload rfl ⟨_, htime⟩)⟩⟩
  -- The name has a default of its own.
  rw [memberSymbol, ok_bind hname, refineSymbol, ok_bind (resolveShape_eq_ok.2 shape?_upload)]
  exact ⟨_, rfl⟩

theorem exists_typesModule_uploadModel : ∃ t, uploadModel.typesModule uploadShapes = .ok t := by
  obtain ⟨_, ids, -, hids, hsound, -⟩ := validate_ok validate_uploadModel
  obtain rfl := Except.ok.inj (reachable_uploadModel.symm.trans hids)
  have hcases : ∀ id ∈ uploadShapes, id = uploadData.id ∨ id = uploadName.id ∨
      id = uploadTime.id ∨ id = upload.id := by simp [uploadShapes]
  refine typesModule_ok hsound (fun id hid => ?_) fun s hs => ?_
  · obtain rfl | rfl | rfl | rfl := hcases id hid
    · exact ⟨_, symbol_uploadModel shape?_uploadData rfl rfl⟩
    · exact ⟨_, symbol_uploadModel shape?_uploadName rfl rfl⟩
    · exact ⟨_, symbol_uploadModel shape?_uploadTime rfl rfl⟩
    · exact ⟨_, (symbol_shape shape?_upload).trans rfl⟩
  · have hshape {t : Shape} (ht : uploadModel.shape? t.id = some t) (hid : s.id = t.id) : t = s :=
      Option.some.inj (ht.symm.trans (hid ▸ hs.shape))
    obtain hid | hid | hid | hid := hcases s.id hs.mem
    · obtain rfl := hshape shape?_uploadData hid
      exact List.forall_mem_nil _
    · obtain rfl := hshape shape?_uploadName hid
      exact List.forall_mem_nil _
    · obtain rfl := hshape shape?_uploadTime hid
      exact List.forall_mem_nil _
    · obtain rfl := hshape shape?_upload hid
      exact exists_memberSymbol_uploadModel

theorem exists_clientModule_uploadModel :
    ∃ client, uploadModel.clientModule uploadService .rpcJson = .ok client := by
  refine exists_clientModule_rpcJson (fun _ => ⟨uploadOperation, some upload, none⟩)
    (List.forall_mem_singleton.2 rfl) fun op _ => ?_
  have hsymbol : ∃ symbol, uploadModel.symbolOf? (some upload) = .ok symbol := by
    rw [symbolOf?, symbol_shape shape?_upload]
    exact ⟨_, rfl⟩
  obtain ⟨symbol, hsymbol⟩ := hsymbol
  rw [methodSignature, ok_bind hsymbol]
  exact ⟨_, rfl⟩

/-- The encoder of the upload calls a helper for binary data. -/
theorem exists_encode_blob {t : Module} (ht : uploadModel.typesModule uploadShapes = .ok t) :
    ∃ body ∈ t.bodies, CallsIn "wire::encode_blob" body := by
  obtain ⟨encoder, hencoder, hstmts⟩ :=
    exists_encoder ht (isAmong_of_shape? (by decide) shape?_upload) rfl
  exact ⟨encoder, hencoder, callsIn_structureEncoder (e := ⟨"data", uploadData.id, false, []⟩)
    List.mem_cons_self shape?_uploadData rfl
    (fun source => ⟨_, List.mem_cons_self, .call [source]⟩) hstmts⟩

end Model

end ClientGen
