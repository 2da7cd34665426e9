import ClientGen.Proofs.Code.Needs
import ClientGen.Proofs.Code.Scopes
import ClientGen.Proofs.Order.Bytes
import ClientGen.Proofs.Order.Groups
import ClientGen.Proofs.Symbol.Parts

/-!
# What a module imports after any calls

A writer keeps its imports in ascending order, by the module they come from and then by name. So the
imports from one module stand together, whatever the order of the calls, and become one line.
-/

namespace ClientGen

namespace Import

/-! ## Lines of imports -/

/-- Of two imports from one module this one stands first: its name is the less, byte by byte, or the
names are equal and its local name is the less; none comes first. -/
def Precedes (a b : Import) : Prop :=
  Text.bytes a.name < Text.bytes b.name ∨
    (a.name = b.name ∧ a.localName.map Text.bytes < b.localName.map Text.bytes)

theorem precedes_of_lt {a b : Import} (hns : a.ns = b.ns) (h : a < b) : a.Precedes b := by
  have hlocal : ∀ x y : Option String, x < y → x.map Text.bytes < y.map Text.bytes := by
    intro x y hxy
    cases y with
    | none => cases x <;> cases hxy
    | some y =>
      cases x with
      | none => trivial
      | some x => exact Text.bytes_lt_iff.2 hxy
  rcases h with h | ⟨-, h⟩
  · exact absurd (hns ▸ h) (String.lt_irrefl _)
  · exact h.imp Text.bytes_lt_iff.2 fun ⟨hname, hlt⟩ => ⟨hname, hlocal _ _ hlt⟩

def modules (imports : List Import) : List String := (imports.map (·.ns)).dedup

/-- Those of some imports that are from one module. -/
def ofModule (imports : List Import) (ns : String) : List Import := imports.filter (·.ns == ns)

variable {imports : List Import} {ns : String} {i : Import}

theorem mem_modules : ns ∈ modules imports ↔ ∃ i ∈ imports, i.ns = ns := SortedSet.mem_keys

theorem mem_ofModule : i ∈ ofModule imports ns ↔ i ∈ imports ∧ i.ns = ns := SortedSet.mem_withKey

theorem pairwise_modules (h : imports.Pairwise (· < ·)) : (modules imports).Pairwise (· < ·) :=
  isFirstKey_ns.pairwise_keys h

theorem ofModule_ne_nil (h : ns ∈ modules imports) : ofModule imports ns ≠ [] :=
  SortedSet.withKey_ne_nil h

/-- Imports in ascending order fall into those of each module. -/
theorem splitBy_eq (h : imports.Pairwise (· < ·)) :
    (imports.splitBy fun a b => a.ns == b.ns) = (modules imports).map (ofModule imports) :=
  isFirstKey_ns.splitBy_eq h

/-- The lines of imports in ascending order: one for each module. -/
theorem lines_eq (h : imports.Pairwise (· < ·)) :
    lines imports = (modules imports).map fun ns => line ns (ofModule imports ns) := by
  have hgroup : ∀ ns ∈ modules imports,
      ((ofModule imports ns).head?.map fun i => line i.ns (ofModule imports ns)) =
        some (line ns (ofModule imports ns)) := by
    intro ns hns
    rw [List.head?_eq_some_head (ofModule_ne_nil hns), Option.map_some,
      (mem_ofModule.1 (List.head_mem (ofModule_ne_nil hns))).2]
  rw [lines, splitBy_eq h, List.filterMap_map, ← List.filterMap_eq_map]
  exact List.filterMap_congr hgroup

end Import

/-! ## What calls import and require -/

theorem Symbol.mem_transitiveDependencies {s : Symbol} {d : Dependency} :
    d ∈ s.transitiveDependencies ↔ d ∈ s.parts.flatMap (·.dependencies) := by
  have hunion : ∀ (ds set : List Dependency), d ∈ SortedSet.union set ds ↔ d ∈ ds ∨ d ∈ set := by
    intro ds
    induction ds with
    | nil => simp [SortedSet.union]
    | cons d' ds ih =>
      intro set
      change d ∈ SortedSet.union (SortedSet.insert d' set) ds ↔ _
      rw [ih, SortedSet.mem_insert, List.mem_cons, or_left_comm, or_assoc]
  rw [transitiveDependencies, SortedSet.ofList, hunion]
  exact or_iff_left List.not_mem_nil

namespace Writer

namespace Call

/-- What the call names in modules. -/
def imports : Call → List Import
  | importName ns name => [⟨ns, name, none⟩]
  | register s localName => s.imports localName
  | write _ | writeBlank | writeDoc _ | openScope _ | closeScope _ | moduleDoc _ | require _ => []

def dependencies : Call → List Dependency
  | register s _ => s.transitiveDependencies
  | require d => [d]
  | write _ | writeBlank | writeDoc _ | openScope _ | closeScope _ | moduleDoc _
  | importName .. => []

end Call

/-- Imports and packages are kept in ascending order. -/
structure IsAscending (w : Writer) : Prop where
  imports : w.imports.Pairwise (· < ·)
  dependencies : w.dependencies.Pairwise (· < ·)

variable {w : Writer}

theorem IsAscending.require (h : w.IsAscending) (d : Dependency) : (w.require d).IsAscending :=
  ⟨h.imports, SortedSet.pairwise_insert Dependency.lt_trans h.dependencies⟩

theorem IsAscending.importAs (h : w.IsAscending) (ns name : String) (localName : Option String) :
    (w.importAs ns name localName).IsAscending := by
  unfold Writer.importAs
  split
  · exact ⟨SortedSet.pairwise_insert Import.lt_trans h.imports, h.dependencies⟩
  · exact h

theorem IsAscending.foldl {α : Type} {f : Writer → α → Writer}
    (hstep : ∀ w a, w.IsAscending → (f w a).IsAscending) (h : w.IsAscending) (as : List α) :
    (as.foldl f w).IsAscending := by
  induction as generalizing w with
  | nil => exact h
  | cons a as ih => exact ih (hstep w a h)

theorem IsAscending.registerPart (h : w.IsAscending) (localName : Option String) (s : Symbol) :
    (w.registerPart localName s).IsAscending :=
  (IsAscending.foldl (fun _ d h => h.require d) h s.dependencies).importAs _ _ _

theorem IsAscending.register (h : w.IsAscending) (s : Symbol) (localName : Option String) :
    (w.register s localName).IsAscending := by
  rw [register_eq]
  exact .foldl (fun _ part h => h.registerPart none part) (h.registerPart localName s) _

/-- What a call adds: the packages it requires, and what it names in other modules. -/
structure Adds (w : Writer) (call : Call) (changed : Writer) : Prop where
  imports : ∀ i, i ∈ changed.imports ↔
    (w.isForeign i.ns = true ∧ i ∈ call.imports) ∨ i ∈ w.imports
  dependencies : ∀ d, d ∈ changed.dependencies ↔ d ∈ call.dependencies ∨ d ∈ w.dependencies
  ascending : w.IsAscending → changed.IsAscending

/-- Each call adds what it registers, names or requires, and no more. -/
theorem adds_after (w : Writer) (call : Call) : w.Adds call (w.after call) := by
  -- Calls that write leave the imports and the packages as they are, also where they fail.
  have hkept : ∀ changed : Writer, changed.imports = w.imports →
      changed.dependencies = w.dependencies → call.imports = [] → call.dependencies = [] →
      w.Adds call changed := by
    intro changed himports hdependencies hnoImports hnoDependencies
    refine ⟨fun i => ?_, fun d => ?_, fun h => ⟨?_, ?_⟩⟩
    · simp [himports, hnoImports]
    · simp [hdependencies, hnoDependencies]
    · exact himports ▸ h.imports
    · exact hdependencies ▸ h.dependencies
  cases call with
  | write text | openScope text => exact hkept _ rfl rfl rfl rfl
  | writeBlank => exact hkept _ rfl rfl rfl rfl
  | writeDoc text => exact hkept _ rfl rfl rfl rfl
  | moduleDoc text => exact hkept _ rfl rfl rfl rfl
  | closeScope footer =>
    rcases closeScope_cases w footer with ⟨hdepth, -⟩ | ⟨innermost, outer, -, hclose⟩
    · rw [(closeScope_of_depth hdepth footer).2]
      exact hkept _ rfl rfl rfl rfl
    · rw [after, perform, hclose]
      exact hkept _ rfl rfl rfl rfl
  | importName ns name =>
    refine ⟨fun i => ?_, fun d => ?_, fun h => h.importAs ns name none⟩
    · rw [Call.imports, List.mem_singleton]
      exact mem_imports_importAs w ns name none
    · change d ∈ (w.importAs ns name none).dependencies ↔ _
      rw [dependencies_importAs]
      exact (or_iff_right List.not_mem_nil).symm
  | register s localName =>
    refine ⟨fun i => mem_imports_register w s localName, fun d => ?_,
      fun h => h.register s localName⟩
    rw [Call.dependencies, Symbol.mem_transitiveDependencies]
    exact mem_dependencies_register w s localName
  | require d =>
    refine ⟨fun i => (or_iff_right fun h => List.not_mem_nil h.2).symm, fun d' => ?_,
      fun h => h.require d⟩
    rw [Call.dependencies, List.mem_singleton]
    exact SortedSet.mem_insert

theorem IsAscending.afterAll (h : w.IsAscending) (calls : List Call) :
    (w.afterAll calls).IsAscending :=
  h.foldl (fun w call => (adds_after w call).ascending) calls

theorem mem_dependencies_afterAll (w : Writer) (calls : List Call) {d : Dependency} :
    d ∈ (w.afterAll calls).dependencies ↔
      (∃ call ∈ calls, d ∈ call.dependencies) ∨ d ∈ w.dependencies :=
  mem_foldl dependencies (fun w call => (isAfter_after w call).ns)
    (fun w call _ => (adds_after w call).dependencies d) calls rfl

theorem mem_imports_afterAll (w : Writer) (calls : List Call) {i : Import} :
    i ∈ (w.afterAll calls).imports ↔
      (∃ call ∈ calls, w.isForeign i.ns = true ∧ i ∈ call.imports) ∨ i ∈ w.imports := by
  have hstep (v : Writer) (call : Call) (hv : v.ns = w.ns) :
      i ∈ (v.after call).imports ↔
        (w.isForeign i.ns = true ∧ i ∈ call.imports) ∨ i ∈ v.imports := by
    rw [(adds_after v call).imports, isForeign, isForeign, hv]
  exact mem_foldl imports (fun w call => (isAfter_after w call).ns) hstep calls rfl

theorem exists_mem_dependencies {calls : List Call} {d : Dependency} :
    (∃ call ∈ calls, d ∈ call.dependencies) ↔
      .require d ∈ calls ∨
        ∃ s localName, .register s localName ∈ calls ∧ d ∈ s.transitiveDependencies := by
  constructor
  · rintro ⟨call, hcall, hd⟩
    cases call with
    | require d' =>
      obtain rfl := List.mem_singleton.1 hd
      exact .inl hcall
    | register s localName => exact .inr ⟨s, localName, hcall, hd⟩
    | write _ | writeBlank | writeDoc _ | openScope _ | closeScope _ | moduleDoc _
    | importName _ _ => cases hd
  · rintro (hcall | ⟨s, localName, hcall, hd⟩)
    · exact ⟨_, hcall, List.mem_singleton_self d⟩
    · exact ⟨_, hcall, hd⟩

/-- A name of a module is imported if a call names it, or registers a symbol with a part that is
defined there by that name. -/
theorem exists_mem_imports {calls : List Call} {module name : String} :
    (∃ call ∈ calls, ∃ localName, (⟨module, name, localName⟩ : Import) ∈ call.imports) ↔
      .importName module name ∈ calls ∨ ∃ s localName, .register s localName ∈ calls ∧
        ∃ part ∈ s.parts, part.ns = module ∧ part.definition = name := by
  constructor
  · rintro ⟨call, hcall, localName, hi⟩
    cases call with
    | importName ns name' =>
      cases List.mem_singleton.1 hi
      exact .inl hcall
    | register s localName' =>
      refine .inr ⟨s, localName', hcall, ?_⟩
      rw [Symbol.parts_eq]
      rcases List.mem_cons.1 hi with hi | hi
      · cases hi
        exact ⟨s, List.mem_cons_self, rfl, rfl⟩
      · obtain ⟨part, hpart, hi⟩ := List.mem_map.1 hi
        cases hi
        exact ⟨part, List.mem_cons_of_mem _ hpart, rfl, rfl⟩
    | write _ | writeBlank | writeDoc _ | openScope _ | closeScope _ | moduleDoc _
    | require _ => cases hi
  · rintro (hcall | ⟨s, localName, hcall, part, hpart, rfl, rfl⟩)
    · exact ⟨_, hcall, none, List.mem_singleton_self _⟩
    · rw [Symbol.parts_eq] at hpart
      rcases List.mem_cons.1 hpart with rfl | hpart
      · exact ⟨_, hcall, localName, List.mem_cons_self⟩
      · exact ⟨_, hcall, none, List.mem_cons_of_mem _ (List.mem_map.2 ⟨part, hpart, rfl⟩)⟩

theorem isImported_iff {module name : String} :
    w.isImported module name = true ↔ ∃ localName, ⟨module, name, localName⟩ ∈ w.imports := by
  rw [isImported, List.any_eq_true]
  constructor
  · rintro ⟨i, hi, hname⟩
    rw [Bool.and_eq_true, beq_iff_eq, beq_iff_eq] at hname
    obtain ⟨rfl, rfl⟩ := hname
    exact ⟨i.localName, hi⟩
  · rintro ⟨localName, hi⟩
    exact ⟨_, hi, by simp⟩

theorem importLines_eq (h : w.IsAscending) : w.importLines =
    if Import.modules w.imports = [] then [] else (Import.modules w.imports).map
      (fun module => Import.line module (Import.ofModule w.imports module)) ++ [""] := by
  have hempty : Import.modules w.imports = [] ↔ w.imports = [] := by
    rw [Import.modules, List.dedup_eq_nil, List.map_eq_nil_iff]
  rw [importLines, Import.lines_eq h.imports]
  simp only [hempty, List.isEmpty_iff]

theorem isForeign_new {ns module : String} :
    (new ns).isForeign module = true ↔ module ≠ "" ∧ module ≠ ns := by
  rw [isForeign, Bool.and_eq_true, bne_iff_ne, bne_iff_ne]
  rfl

/-- A module imports what calls name in other modules, the types inside a type included. -/
theorem mem_imports_new {ns : String} {calls : List Call} {i : Import} :
    i ∈ ((new ns).afterAll calls).imports ↔
      i.ns ≠ "" ∧ i.ns ≠ ns ∧ ∃ call ∈ calls, i ∈ call.imports := by
  have hnone : i ∉ (new ns).imports := List.not_mem_nil
  rw [mem_imports_afterAll, or_iff_left hnone, isForeign_new]
  grind

end Writer

end ClientGen
