import ClientGen.Proofs.Graph.Boxing
import ClientGen.Proofs.Naming.Words

/-!
# Names of types and the types around them

An angle bracket in the name of a generated type comes from the name in the model: neither letter
case nor the escape of a keyword brings one in. So where names have none, a type that starts like a
box is one.
-/

namespace ClientGen

/-! ## Letter case -/

/-- A character before the capital letters: a blank, a digit or a mark. -/
structure Unicode.IsMark (b : Char) : Prop where
  pos : 0 < b.toNat
  lt : b.toNat < 65

namespace Unicode

variable {b : Char}

theorem ascii_case : ∀ n < 128,
    ((Char.ofNat n).toUpper = Char.ofNat n ∨ 65 ≤ (Char.ofNat n).toUpper.toNat) ∧
    ((Char.ofNat n).toLower = Char.ofNat n ∨ 65 ≤ (Char.ofNat n).toLower.toNat) := by
  decide

/-- What the tables map characters to are letters, or lie behind them. -/
theorem shifts_ge : (∀ run ∈ upperShifts, (65 : Int) ≤ run.1 + run.2.2.2) ∧
    ∀ run ∈ lowerShifts, (65 : Int) ≤ run.1 + run.2.2.2 := by
  constructor <;> decide +kernel

theorem expansions_ge : (∀ entry ∈ upperExpansions, ∀ n ∈ entry.2, 65 ≤ n) ∧
    ∀ entry ∈ lowerExpansions, ∀ n ∈ entry.2, 65 ≤ n := by
  constructor <;> decide +kernel

theorem IsMark.ofNat_ne (hb : IsMark b) {n : Nat} (h : 65 ≤ n) : Char.ofNat n ≠ b := by
  rintro rfl
  by_cases hvalid : n.isValidChar
  · have hlt := hb.lt
    rw [Char.ofNat, dif_pos hvalid] at hlt
    change n < 65 at hlt
    omega
  · have hpos := hb.pos
    rw [Char.ofNat, dif_neg hvalid] at hpos
    exact absurd hpos (by decide)

theorem IsMark.target?_ne (hb : IsMark b) {runs : CharShifts}
    (hruns : ∀ run ∈ runs, (65 : Int) ≤ run.1 + run.2.2.2) {c d : Char}
    (h : runs.target? c = some d) : d ≠ b := by
  obtain ⟨⟨first, last, step, distance⟩, hrun, rfl⟩ := Option.map_eq_some_iff.1 h
  have hge := hruns _ (Array.mem_of_find?_eq_some hrun)
  have hin := Array.find?_some hrun
  simp only [inRun, Bool.and_eq_true, decide_eq_true_eq] at hin
  dsimp only at hge
  exact hb.ofNat_ne (by omega)

/-- A mapping that goes by ASCII, a table of longer mappings and one of shifts gives a mark for no
other character. -/
theorem IsMark.eq_of_mem_mapped (hb : IsMark b) {ascii : Char → Char}
    (hascii : ∀ n < 128, ascii (Char.ofNat n) = Char.ofNat n ∨ 65 ≤ (ascii (Char.ofNat n)).toNat)
    {expansions : Array (Nat × List Nat)}
    (hexpansions : ∀ entry ∈ expansions, ∀ n ∈ entry.2, 65 ≤ n) {shifts : CharShifts}
    (hshifts : ∀ run ∈ shifts, (65 : Int) ≤ run.1 + run.2.2.2) {c : Char}
    (h : b ∈ if c.toNat < 128 then [ascii c]
      else match expansions.find? (·.1 == c.toNat) with
        | some (_, expansion) => expansion.map Char.ofNat
        | none => [(shifts.target? c).getD c]) : c = b := by
  split at h
  · rename_i hsmall
    obtain rfl := List.mem_singleton.1 h
    have hc := hascii c.toNat hsmall
    rw [Char.ofNat_toNat] at hc
    rcases hc with hc | hc
    · exact hc.symm
    · exact absurd hb.lt (by omega)
  · split at h
    · rename_i expansion hfind
      obtain ⟨n, hn, heq⟩ := List.mem_map.1 h
      exact absurd heq (hb.ofNat_ne (hexpansions _ (Array.mem_of_find?_eq_some hfind) n hn))
    · cases htarget : shifts.target? c with
      | none =>
        rw [htarget] at h
        exact (List.mem_singleton.1 h).symm
      | some d =>
        rw [htarget] at h
        exact absurd (List.mem_singleton.1 h).symm (hb.target?_ne hshifts htarget)

theorem IsMark.eq_of_mem_upperChars (hb : IsMark b) {c : Char} (h : b ∈ upperChars c) : c = b :=
  hb.eq_of_mem_mapped (fun n hn => (ascii_case n hn).1) expansions_ge.1 shifts_ge.1 h

theorem IsMark.eq_of_mem_lowerChars (hb : IsMark b) {c : Char} (h : b ∈ lowerChars c) : c = b :=
  hb.eq_of_mem_mapped (fun n hn => (ascii_case n hn).2) expansions_ge.2 shifts_ge.2 h

theorem IsMark.mem_of_mem_lowercaseAfter (hb : IsMark b) {before cs : List Char}
    (h : b ∈ lowercaseAfter before cs) : b ∈ cs := by
  induction cs generalizing before with
  | nil => cases h
  | cons c rest ih =>
    rcases List.mem_append.1 h with h | h
    · split at h
      · have hsigma : b = 'ς' ∨ b = 'σ' := by
          split at h
          · exact .inl (List.mem_singleton.1 h)
          · exact .inr (List.mem_singleton.1 h)
        have hlt := hb.lt
        rcases hsigma with rfl | rfl <;> exact absurd hlt (by decide)
      · exact List.mem_cons.2 (.inl (hb.eq_of_mem_lowerChars h).symm)
    · exact List.mem_cons_of_mem _ (ih h)

theorem isMark_lt : IsMark '<' := ⟨by decide, by decide⟩

end Unicode

/-! ## Names -/

namespace Naming

open Unicode

theorem lt_mem_of_mem_capitalize {word : List Char} (h : '<' ∈ capitalize word) : '<' ∈ word := by
  cases word with
  | nil => cases h
  | cons c rest =>
    rcases List.mem_append.1 h with h | h
    · exact List.mem_cons.2 (.inl (isMark_lt.eq_of_mem_upperChars h).symm)
    · exact List.mem_cons_of_mem _ (isMark_lt.mem_of_mem_lowercaseAfter h)

/-- An angle bracket in the name of a type stands in the name that it is made of. -/
theorem lt_mem_of_mem_typeName {name : String} (h : '<' ∈ (typeName name).toList) :
    '<' ∈ name.toList := by
  have hpascal : '<' ∈ (pascalCase name).toList := by
    unfold typeName at h
    dsimp only at h
    split at h
    · rw [String.toList_append] at h
      rcases List.mem_append.1 h with h | h
      · exact h
      · exact absurd h (by decide)
    · exact h
  rw [pascalCase, String.toList_ofList] at hpascal
  obtain ⟨capital, hcapital, hmem⟩ := List.mem_flatten.1 hpascal
  obtain ⟨word, hword, rfl⟩ := List.mem_map.1 hcapital
  exact (of_mem_splitWords hword (lt_mem_of_mem_capitalize hmem)).1

end Naming

/-! ## Symbols -/

theorem option_ne (type : String) : s!"Option<{type}>" ≠ type := by
  intro heq
  have hlength := congrArg String.length heq
  change ("Option<" ++ type ++ ">").length = type.length at hlength
  rw [String.length_append, String.length_append] at hlength
  have hclose : ">".length = 1 := rfl
  omega

namespace Shape

variable {s : Shape} {ns : String} {f : ShapeId → Except GenerationError Symbol} {symbol : Symbol}

/-- The type of a shape that is no collection. -/
def leafType (s : Shape) : String :=
  match s.kind with
  | .primitive p => p.symbol.name
  | _ => s.generatedName

/-- The type of a collection whose elements or values are declared with a type. -/
def containerOf (s : Shape) (keyType : ShapeId → String) (held : String) : String :=
  match s.kind with
  | .map k _ => s!"HashMap<{keyType k.target}, {held}>"
  | _ => s!"Vec<{held}>"

/-- The type of a collection that holds values of a type; a sparse one holds options of them. -/
def typeAround (s : Shape) (keyType : ShapeId → String) (held : String) : String :=
  s.containerOf keyType (if s.traits.isSparse then s!"Option<{held}>" else held)

theorem containerOf_inj {keyType : ShapeId → String} {a b : String}
    (h : s.containerOf keyType a = s.containerOf keyType b) : a = b := by
  unfold containerOf at h
  cases hkind : s.kind <;> rw [hkind] at h <;>
    simpa [toString, String.append_left_inj, String.append_right_inj] using h

/-- The type of a collection is one of options exactly if the collection is sparse. -/
theorem typeAround_eq_option_iff (keyType : ShapeId → String) (held : String) :
    s.typeAround keyType held = s.containerOf keyType s!"Option<{held}>" ↔
      s.traits.isSparse = true := by
  unfold typeAround
  cases s.traits.isSparse with
  | true => exact iff_of_true rfl rfl
  | false => exact iff_of_false (fun h => option_ne held (containerOf_inj h).symm) (by simp)

theorem name_enumSymbol (s : Shape) (ns : String) : (s.enumSymbol ns).name = s.generatedName := by
  unfold enumSymbol
  generalize s.generatedName = name
  split <;> rfl

theorem name_scalarSymbol {p : Primitive} (h : s.scalarSymbol p = .ok symbol) :
    symbol.name = p.symbol.name := by
  unfold scalarSymbol at h
  split at h
  · obtain ⟨expr, -, rfl⟩ := map_eq_ok.1 h
    rfl
  · obtain rfl := Except.ok.inj h
    rfl

theorem name_of_leaf (hs : s.isCollection = false) (h : s.symbolWith ns f = .ok symbol) :
    symbol.name = s.leafType := by
  unfold symbolWith at h
  unfold isCollection at hs
  unfold leafType
  cases hkind : s.kind with
  | list e | set e | map k v =>
    rw [hkind] at hs
    cases hs
  | primitive p =>
    rw [hkind] at h
    obtain ⟨scalar, hscalar, rfl⟩ := map_eq_ok.1 h
    rw [name_finishSymbol, name_scalarSymbol hscalar]
  | enum values =>
    rw [hkind] at h
    obtain rfl := Except.ok.inj h
    rw [name_finishSymbol, name_enumSymbol]
  | _ =>
    rw [hkind] at h
    obtain rfl := Except.ok.inj h
    rw [name_finishSymbol, name_recordSymbol]

/-- The type of a leaf never starts like a box. -/
theorem leafType_not_box (h : '<' ∉ s.id.name.toList) :
    "Box<".toList.isPrefixOf s.leafType.toList = false := by
  unfold leafType
  split
  · rename_i p _
    cases p <;> decide
  · rw [Bool.eq_false_iff]
    intro hprefix
    have hmem := (List.isPrefixOf_iff_prefix.1 hprefix).subset (by decide : '<' ∈ "Box<".toList)
    exact h (Naming.lt_mem_of_mem_typeName hmem)

/-- The type of a key is a single name. -/
theorem lt_not_mem_leafType (hkey : s.isKey = true) (h : '<' ∉ s.id.name.toList) :
    '<' ∉ s.leafType.toList := by
  unfold isKey at hkey
  unfold leafType
  cases hkind : s.kind with
  | primitive p =>
    rw [hkind] at hkey
    dsimp only
    cases p <;> first | decide | cases hkey
  | _ => exact fun hmem => h (Naming.lt_mem_of_mem_typeName hmem)

theorem isCollection_of_isKey (hkey : s.isKey = true) : s.isCollection = false := by
  unfold isKey at hkey
  unfold isCollection
  cases hkind : s.kind <;> simp [hkind] at hkey ⊢

theorem typeAround_not_box (keyType : ShapeId → String) (held : String) :
    "Box<".toList.isPrefixOf (s.typeAround keyType held).toList = false := by
  unfold typeAround containerOf
  cases s.kind <;> simp [toString, String.toList_append, List.isPrefixOf]

end Shape

namespace Model

/-- The type of a shape, without an option around it. -/
def bareType (m : Model) (ns : String) (id : ShapeId) : String :=
  match m.symbol ns id with
  | .ok symbol => symbol.name
  | .error _ => ""

variable {m : Model} {ns : String} {id : ShapeId} {s : Shape} {symbol : Symbol}

theorem bareType_eq (h : m.symbol ns id = .ok symbol) : m.bareType ns id = symbol.name := by
  rw [bareType, h]

theorem symbol_shape (hs : m.shape? id = some s) :
    m.symbol ns id = s.symbolWith ns (m.symbolFrom ns [id]) :=
  symbolFrom_shape List.not_mem_nil hs

/-- The type of a list or set is one around the type of its element. -/
theorem name_of_list {e : Member} (hs : m.shape? id = some s)
    (hkind : s.kind = .list e ∨ s.kind = .set e) (h : m.symbol ns id = .ok symbol) :
    ∃ element, m.symbol ns e.target = .ok element ∧
      symbol.name = s.typeAround (m.bareType ns) element.name := by
  rw [symbol_shape hs] at h
  have hlist : ∃ element, m.symbolFrom ns [id] e.target = .ok element ∧
      s.finishSymbol (s.listSymbol element) = symbol := by
    unfold Shape.symbolWith at h
    rcases hkind with hkind | hkind <;> rw [hkind] at h <;> exact map_eq_ok.1 h
  obtain ⟨element, helement, rfl⟩ := hlist
  refine ⟨element, symbol_eq_of_symbolFrom_ok helement, ?_⟩
  rw [Shape.name_finishSymbol]
  unfold Shape.listSymbol Shape.typeAround Shape.containerOf
  rcases hkind with hkind | hkind <;> rw [hkind] <;> dsimp only <;> split <;>
    cases s.traits.isSparse <;> rfl

/-- The type of a map is one around the type of its values. -/
theorem name_of_map {k v : Member} (hs : m.shape? id = some s) (hkind : s.kind = .map k v)
    (h : m.symbol ns id = .ok symbol) :
    ∃ value, m.symbol ns v.target = .ok value ∧
      symbol.name = s.typeAround (m.bareType ns) value.name := by
  rw [symbol_shape hs] at h
  unfold Shape.symbolWith at h
  rw [hkind] at h
  obtain ⟨key, hkey, h⟩ := bind_eq_ok.1 h
  obtain ⟨value, hvalue, rfl⟩ := map_eq_ok.1 h
  refine ⟨value, symbol_eq_of_symbolFrom_ok hvalue, ?_⟩
  rw [Shape.name_finishSymbol]
  unfold Shape.mapSymbol Shape.typeAround Shape.containerOf
  rw [hkind]
  dsimp only
  rw [bareType_eq (symbol_eq_of_symbolFrom_ok hkey)]
  split <;> cases s.traits.isSparse <;> rfl

end Model

end ClientGen
