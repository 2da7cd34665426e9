import ClientGen.Proofs.Code.Writing
import ClientGen.Proofs.Order.Lexicographic

/-!
# What code needs, and what a module has for it

A module that is written has the packages of all needs of its code and no others, and imports the
names of all types that it needs, with all types that stand inside them, as far as these are in
other modules.
-/

namespace ClientGen

/-! ## Needs of code -/

namespace Code

theorem mem_needsOfAll {n : Need} {code : List Code} :
    n ∈ needsOfAll code ↔ ∃ c ∈ code, n ∈ c.needs := by
  induction code with
  | nil => simp [needsOfAll]
  | cons c code ih => simp [needsOfAll, ih]

end Code

namespace Need

def dependencies : Need → List Dependency
  | .item .. => []
  | .type s => s.parts.flatMap (·.dependencies)
  | .package d => [d]

/-- What a need takes from modules. -/
def imports : Need → List Import
  | .item ns name => [⟨ns, name, none⟩]
  | .type s => s.parts.map fun part => ⟨part.ns, part.definition, none⟩
  | .package _ => []

end Need

/-- What a type takes from modules, its head under a local name if there is one. -/
def Symbol.imports (s : Symbol) (localName : Option String) : List Import :=
  ⟨s.ns, s.definition, localName⟩ ::
    (partsOfAll s.references).map fun part => ⟨part.ns, part.definition, none⟩

theorem Symbol.imports_none (s : Symbol) : s.imports none = (Need.type s).imports := by
  cases s
  rfl

/-! ## What is provided -/

namespace Writer

variable {w : Writer} {d : Dependency} {i : Import}

/-- What each of several steps adds, all of them add; no step renames the module. -/
theorem mem_foldl {α β : Type} {f : Writer → α → Writer} (get : Writer → List β) {x : β}
    {P : α → Prop} {ns : String} (hns : ∀ w a, (f w a).ns = w.ns)
    (hstep : ∀ w a, w.ns = ns → (x ∈ get (f w a) ↔ P a ∨ x ∈ get w)) (as : List α)
    (hw : w.ns = ns) : x ∈ get (as.foldl f w) ↔ (∃ a ∈ as, P a) ∨ x ∈ get w := by
  induction as generalizing w with
  | nil => simp
  | cons a as ih =>
    rw [List.foldl_cons, ih ((hns w a).trans hw), hstep w a hw]
    simp only [List.exists_mem_cons_iff]
    rw [or_assoc, or_left_comm]

theorem register_eq (w : Writer) (s : Symbol) (localName : Option String) :
    w.register s localName = (Symbol.partsOfAll s.references).foldl
      (fun w part => w.registerPart none part) (w.registerPart localName s) := by
  cases s
  rfl

/-! ### Packages -/

theorem dependencies_importAs (w : Writer) (ns name : String) (localName : Option String) :
    (w.importAs ns name localName).dependencies = w.dependencies := by
  unfold importAs
  split <;> rfl

theorem mem_dependencies_registerPart (w : Writer) (localName : Option String) (s : Symbol) :
    d ∈ (w.registerPart localName s).dependencies ↔ d ∈ s.dependencies ∨ d ∈ w.dependencies := by
  rw [registerPart, dependencies_importAs,
    mem_foldl dependencies (f := require) (P := fun d' => d = d') (fun _ _ => rfl)
      (fun _ _ _ => SortedSet.mem_insert) s.dependencies rfl]
  simp

theorem mem_dependencies_register (w : Writer) (s : Symbol) (localName : Option String) :
    d ∈ (w.register s localName).dependencies ↔
      d ∈ s.parts.flatMap (·.dependencies) ∨ d ∈ w.dependencies := by
  have hparts : s.parts = s :: Symbol.partsOfAll s.references := by
    cases s
    rfl
  rw [register_eq, mem_foldl dependencies (P := fun part => d ∈ part.dependencies)
    (fun w s => ns_registerPart w none s) (fun w s _ => mem_dependencies_registerPart w none s)
    (Symbol.partsOfAll s.references) rfl, mem_dependencies_registerPart, hparts,
    List.flatMap_cons, List.mem_append, List.mem_flatMap, ← or_assoc, or_comm (a := d ∈ _)]

theorem mem_dependencies_provide (w : Writer) (n : Need) :
    d ∈ (w.provide n).dependencies ↔ d ∈ n.dependencies ∨ d ∈ w.dependencies := by
  cases n with
  | item ns name =>
    change d ∈ (w.importAs ns name none).dependencies ↔ _
    rw [dependencies_importAs]
    simp [Need.dependencies]
  | type s => exact mem_dependencies_register w s none
  | package d' =>
    change d ∈ SortedSet.insert d' w.dependencies ↔ _
    rw [SortedSet.mem_insert, Need.dependencies, List.mem_singleton]

/-- The packages of all needs are added, and no others. -/
theorem mem_dependencies_provideAll {needs : List Need} :
    d ∈ (w.provideAll needs).dependencies ↔
      (∃ n ∈ needs, d ∈ n.dependencies) ∨ d ∈ w.dependencies :=
  mem_foldl dependencies ns_provide (fun w n _ => mem_dependencies_provide w n) needs rfl

/-! ### Imports -/

theorem mem_imports_importAs (w : Writer) (ns name : String) (localName : Option String) :
    i ∈ (w.importAs ns name localName).imports ↔
      (w.isForeign i.ns = true ∧ i = ⟨ns, name, localName⟩) ∨ i ∈ w.imports := by
  have hiff : (w.isForeign i.ns = true ∧ i = ⟨ns, name, localName⟩) ↔
      (w.isForeign ns = true ∧ i = ⟨ns, name, localName⟩) := by
    refine and_congr_left ?_
    rintro rfl
    rfl
  rw [hiff]
  unfold importAs
  split
  · rename_i hforeign
    rw [SortedSet.mem_insert]
    simp [hforeign]
  · rename_i hforeign
    simp [hforeign]

theorem imports_foldl_require (ds : List Dependency) (w : Writer) :
    (ds.foldl require w).imports = w.imports := by
  induction ds generalizing w with
  | nil => rfl
  | cons d ds ih => exact ih (w.require d)

theorem mem_imports_registerPart (w : Writer) (localName : Option String) (s : Symbol) :
    i ∈ (w.registerPart localName s).imports ↔
      (w.isForeign i.ns = true ∧ i = ⟨s.ns, s.definition, localName⟩) ∨ i ∈ w.imports := by
  have hns : (s.dependencies.foldl require w).ns = w.ns :=
    ns_foldl (f := require) (fun _ _ => rfl) s.dependencies w
  have hforeign : (s.dependencies.foldl require w).isForeign i.ns = w.isForeign i.ns := by
    rw [isForeign, isForeign, hns]
  rw [registerPart, mem_imports_importAs, hforeign, imports_foldl_require]

theorem mem_imports_register (w : Writer) (s : Symbol) (localName : Option String) :
    i ∈ (w.register s localName).imports ↔
      (w.isForeign i.ns = true ∧ i ∈ s.imports localName) ∨ i ∈ w.imports := by
  have hstep (v : Writer) (part : Symbol) (hv : v.ns = w.ns) :
      i ∈ (v.registerPart none part).imports ↔
        (w.isForeign i.ns = true ∧ i = ⟨part.ns, part.definition, none⟩) ∨ i ∈ v.imports := by
    rw [mem_imports_registerPart, isForeign, isForeign, hv]
  rw [register_eq, mem_foldl imports (fun w s => ns_registerPart w none s) hstep _
    (ns_registerPart w localName s), mem_imports_registerPart, Symbol.imports, List.mem_cons,
    List.mem_map]
  grind

theorem mem_imports_provide (w : Writer) (n : Need) :
    i ∈ (w.provide n).imports ↔ (w.isForeign i.ns = true ∧ i ∈ n.imports) ∨ i ∈ w.imports := by
  cases n with
  | item ns name =>
    change i ∈ (w.importAs ns name none).imports ↔ _
    rw [mem_imports_importAs, Need.imports, List.mem_singleton]
  | type s =>
    rw [← Symbol.imports_none]
    exact mem_imports_register w s none
  | package d =>
    change i ∈ w.imports ↔ _
    simp [Need.imports]

/-- What the needs take from other modules is imported, and nothing else. -/
theorem mem_imports_provideAll {needs : List Need} :
    i ∈ (w.provideAll needs).imports ↔
      (∃ n ∈ needs, w.isForeign i.ns = true ∧ i ∈ n.imports) ∨ i ∈ w.imports := by
  have hstep (v : Writer) (n : Need) (hv : v.ns = w.ns) :
      i ∈ (v.provide n).imports ↔ (w.isForeign i.ns = true ∧ i ∈ n.imports) ∨ i ∈ v.imports := by
    rw [mem_imports_provide, isForeign, isForeign, hv]
  exact mem_foldl imports ns_provide hstep needs rfl

end Writer

/-! ## What a module needs -/

namespace Associated

/-- What belongs to a type needs the types in the head of a function, and what its body needs. -/
def needs : Associated → List Need
  | .constant .. => []
  | .function _ _ signature body =>
    signature.types.map Need.type ++ Code.needsOfAll (codeOfStmts body)

end Associated

namespace Item

def needs : Item → List Need
  | .struct _ _ _ fields => fields.map fun f => .type f.type
  | .enum _ _ _ variants => variants.flatMap fun v => (v.payload.map Need.type).toList
  | .interface _ _ methods => methods.flatMap fun e => e.signature.types.map Need.type
  | .impl _ _ members => members.flatMap Associated.needs
  | .need n => [n]

end Item

namespace Code

variable {α : Type}

theorem needsOfAll_flatMap (f : α → List Code) (l : List α) :
    needsOfAll (l.flatMap f) = l.flatMap fun a => needsOfAll (f a) := by
  induction l with
  | nil => rfl
  | cons a l ih => rw [List.flatMap_cons, needsOfAll_append, ih, List.flatMap_cons]

theorem needsOfAll_need (l : List Need) : needsOfAll (l.map need) = l := by
  induction l with
  | nil => rfl
  | cons n l ih => rw [List.map_cons, needsOfAll, needs, ih, List.singleton_append]

/-- Empty lines need nothing. -/
theorem needsOfAll_separated (pieces : List (List Code)) :
    needsOfAll (separated pieces) = pieces.flatMap needsOfAll := by
  unfold separated
  match pieces with
  | [] => rfl
  | [piece] => simp [List.intercalate]
  | piece :: next :: rest =>
    have ih := needsOfAll_separated (next :: rest)
    unfold separated at ih
    rw [List.intercalate_cons_cons, needsOfAll_append, needsOfAll_append, ih]
    simp [needsOfAll, needs]

@[simp] theorem needsOfAll_docCode (docs : Option String) : needsOfAll (docCode docs) = [] := by
  cases docs <;> rfl

@[simp] theorem needsOfAll_deriveCode (derives : List String) :
    needsOfAll (deriveCode derives) = [] := by
  cases derives <;> rfl

end Code

theorem Signature.needsOfAll_needs (s : Signature) :
    Code.needsOfAll s.needs = s.types.map Need.type := by
  rw [needs, ← Code.needsOfAll_need (s.types.map Need.type), List.map_map]
  rfl

theorem Associated.needsOfAll_code (e : Associated) : Code.needsOfAll e.code = e.needs := by
  cases e with
  | constant docs name type elements =>
    rw [code, Code.needsOfAll_append, Code.needsOfAll_docCode]
    rfl
  | function docs isPublic signature body =>
    rw [code, Code.needsOfAll_append, Code.needsOfAll_append, Code.needsOfAll_docCode,
      signature.needsOfAll_needs]
    simp [Code.needsOfAll, Code.needs, needs]

/-- The code of an item needs what the item needs. -/
theorem Item.needsOfAll_code (x : Item) : Code.needsOfAll x.code = x.needs := by
  cases x with
  | struct docs derives name fields =>
    have hfield (f : StructField) : Code.needsOfAll f.code = [.type f.type] := by
      simp [StructField.code, Code.needsOfAll, Code.needs, Code.needsOfAll_append]
    simp [code, needs, Code.needsOfAll_append, Code.needsOfAll, Code.needs,
      Code.needsOfAll_flatMap, hfield, List.map_eq_flatMap]
  | enum docs derives name variants =>
    have hvariant (v : EnumVariant) :
        Code.needsOfAll v.code = (v.payload.map Need.type).toList := by
      cases hpayload : v.payload <;>
        simp [EnumVariant.code, hpayload, Code.needsOfAll, Code.needs, Code.needsOfAll_append]
    simp [code, needs, Code.needsOfAll_append, Code.needsOfAll, Code.needs,
      Code.needsOfAll_flatMap, hvariant]
  | interface docs name methods =>
    have hmethod (e : Method) :
        Code.needsOfAll e.code = e.signature.types.map Need.type := by
      simp [Method.code, Code.needsOfAll_append, Code.needsOfAll, Code.needs,
        Signature.needsOfAll_needs]
    simp [code, needs, Code.needsOfAll_append, Code.needsOfAll, Code.needs,
      Code.needsOfAll_separated, List.flatMap_map, hmethod]
  | impl role type members =>
    cases role <;> simp [code, needs, Code.needsOfAll, Code.needs, Code.needsOfAll_separated,
      List.flatMap_map, Associated.needsOfAll_code]
  | need n => rfl

namespace Module

variable {t : Module} {d : Dependency} {i : Import}

def allNeeds (t : Module) : List Need := t.needs ++ t.items.flatMap Item.needs

theorem mem_allNeeds_of_mem_items {x : Item} (hx : x ∈ t.items) {n : Need} (hn : n ∈ x.needs) :
    n ∈ t.allNeeds :=
  List.mem_append_right _ (List.mem_flatMap.2 ⟨x, hx, hn⟩)

theorem writer_eq (t : Module) : ∃ lines scopes, t.writer =
    (((Writer.new t.ns).moduleDoc t.docs).provideAll t.allNeeds).place lines scopes := by
  have hneeds : Code.needsOfAll (t.needs.map Code.need ++ t.items.flatMap Item.code) =
      t.allNeeds := by
    rw [Code.needsOfAll_append, Code.needsOfAll_need, Code.needsOfAll_flatMap]
    simp only [Item.needsOfAll_code]
    rfl
  rw [writer, Writer.emit_eq, hneeds]
  exact ⟨_, _, rfl⟩

/-- A module has the packages of its needs. -/
theorem mem_dependencies : d ∈ t.writer.dependencies ↔ ∃ n ∈ t.allNeeds, d ∈ n.dependencies := by
  obtain ⟨lines, scopes, hwriter⟩ := t.writer_eq
  rw [hwriter]
  change d ∈ (((Writer.new t.ns).moduleDoc t.docs).provideAll t.allNeeds).dependencies ↔ _
  rw [Writer.mem_dependencies_provideAll]
  exact or_iff_left (List.not_mem_nil)

/-- A module imports what its needs take from other modules. -/
theorem mem_imports : i ∈ t.writer.imports ↔
    i.ns ≠ "" ∧ i.ns ≠ t.ns ∧ ∃ n ∈ t.allNeeds, i ∈ n.imports := by
  obtain ⟨lines, scopes, hwriter⟩ := t.writer_eq
  rw [hwriter]
  change i ∈ (((Writer.new t.ns).moduleDoc t.docs).provideAll t.allNeeds).imports ↔ _
  rw [Writer.mem_imports_provideAll]
  have hforeign : ((Writer.new t.ns).moduleDoc t.docs).isForeign i.ns = true ↔
      i.ns ≠ "" ∧ i.ns ≠ t.ns := by
    simp [Writer.isForeign, Writer.moduleDoc, Writer.new]
  constructor
  · rintro (⟨n, hn, hi, himport⟩ | hi)
    · exact ⟨(hforeign.1 hi).1, (hforeign.1 hi).2, n, hn, himport⟩
    · cases hi
  · rintro ⟨hns, hother, n, hn, himport⟩
    exact .inl ⟨n, hn, hforeign.2 ⟨hns, hother⟩, himport⟩

end Module

end ClientGen
