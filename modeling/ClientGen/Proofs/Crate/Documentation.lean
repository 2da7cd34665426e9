import ClientGen.Proofs.Crate.Outline

/-!
# Documentation of the model never becomes code

Models that differ in documentation alone have one outline in common, which is either of them
without documentation. So their modules differ in the documentation of types, fields, variants and
methods, hence in lines of documentation alone.
-/

namespace ClientGen

/-- What is left of a module without documentation is what is left of it without the documentation
of its items. -/
theorem map_withoutDocs_undocumented (t : Except GenerationError Module) :
    (t.map Module.undocumented).map (fun t => t.unit.withoutDocs) =
      t.map fun t => t.unit.withoutDocs := by
  cases t with
  | error e => rfl
  | ok t => exact congrArg Except.ok t.withoutDocs_unit_undocumented

namespace Model

variable (m : Model)

theorem resolveService_undocumented (service : ShapeId) :
    m.undocumented.resolveService service =
      (m.resolveService service).map .undocumented := by
  unfold resolveService
  rw [service?_undocumented]
  cases m.service? service <;> rfl

/-- The module of the types without lines of documentation is that of the model without
documentation. -/
theorem typesModule_undocumented (shapes : List ShapeId) :
    ((m.undocumented.typesModule shapes).map fun t => t.unit.withoutDocs) =
      (m.typesModule shapes).map fun t => t.unit.withoutDocs := by
  rw [← map_withoutDocs_undocumented, m.isOutline_undocumented.typesModule fun _ _ => trivial,
    map_withoutDocs_undocumented]

/-- The module of the client without lines of documentation is that of the model without
documentation. -/
theorem clientModule_undocumented (service : ShapeId) (p : Protocol) :
    ((m.undocumented.resolveService service >>= fun s => m.undocumented.clientModule s p).map
        fun t => t.unit.withoutDocs) =
      (m.resolveService service >>= fun s => m.clientModule s p).map
        fun t => t.unit.withoutDocs := by
  rw [resolveService_undocumented, map_bind_eq]
  refine bind_map_congr id rfl fun s s' hs => ?_
  obtain rfl : s = s' := hs
  rw [← map_withoutDocs_undocumented, m.isOutline_undocumented.clientModule fun _ _ => trivial,
    map_withoutDocs_undocumented]

/-- Where two models are equal without documentation, the modules of the types and of the client
fail with one error, or have one text but for lines of documentation, and the same dependencies. -/
theorem withoutDocs_congr {m m' : Model} (h : m.undocumented = m'.undocumented) :
    (∀ shapes, ((m.typesModule shapes).map fun t => t.unit.withoutDocs) =
      (m'.typesModule shapes).map fun t => t.unit.withoutDocs) ∧
    ∀ service p,
      ((m.resolveService service >>= fun s => m.clientModule s p).map
          fun t => t.unit.withoutDocs) =
        (m'.resolveService service >>= fun s => m'.clientModule s p).map
          fun t => t.unit.withoutDocs := by
  refine ⟨fun shapes => ?_, fun service p => ?_⟩
  · rw [← m.typesModule_undocumented, h, m'.typesModule_undocumented]
  · rw [← m.clientModule_undocumented, h, m'.clientModule_undocumented]

/-- Neither the end of a comment nor the text of a function gets out of the documentation of a
shape, a member, an operation or a service. -/
theorem withoutDocs_congr_injection :
    let input : ShapeId := ⟨"store", "Input"⟩
    let key : ShapeId := ⟨"store", "Key"⟩
    let put : ShapeId := ⟨"store", "Put"⟩
    let hlt : input < key := by decide
    let model (docs : Traits) (text : Option String) : Model :=
      ⟨⟨[⟨input, .structure [⟨"key", key, true, .httpLabel :: docs⟩], docs⟩,
          ⟨key, .primitive .string, docs⟩],
          .cons (fun _ h => List.mem_singleton.1 h ▸ hlt) (List.pairwise_singleton _ _)⟩,
        ⟨[⟨put, some input, none, some ⟨.put, "/\x7bkey\x7d"⟩, text⟩], List.pairwise_singleton _ _⟩,
        ⟨[⟨⟨"store", "Store"⟩, "1", [put], some .restJson, text⟩], List.pairwise_singleton _ _⟩⟩
    let m := model [] none
    let m' := model [.documentation "*/\n\x7d\r\nfn evil() \x7b\x7d\n/// and\r"]
      (some "\"\n\n  \x7d fn evil()")
    m.undocumented = m'.undocumented ∧
      (∀ shapes, ((m.typesModule shapes).map fun t => t.unit.withoutDocs) =
        (m'.typesModule shapes).map fun t => t.unit.withoutDocs) ∧
      ∀ service p,
        ((m.resolveService service >>= fun s => m.clientModule s p).map
            fun t => t.unit.withoutDocs) =
          (m'.resolveService service >>= fun s => m'.clientModule s p).map
            fun t => t.unit.withoutDocs := by
  intro input key put hlt model m m'
  have h : m.undocumented = m'.undocumented := rfl
  exact ⟨h, withoutDocs_congr h⟩

end Model

end ClientGen
