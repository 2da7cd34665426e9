import ClientGen.Proofs.Graph.Soundness
import ClientGen.Proofs.Symbol.Paths

/-!
# The types that stand in a symbol

Inside the symbol of a shape stand the types of the shapes that it leads to through collections. An
option, a default or a box around a type leaves its head as it is, so each of them has the head of
one of these shapes.
-/

namespace ClientGen

/-- Where the head of a type is defined, and the packages it depends on. -/
structure TypeHead where
  ns : String
  definition : String
  dependencies : List Dependency

namespace Symbol

def head (s : Symbol) : TypeHead := ⟨s.ns, s.definition, s.dependencies⟩

/-- The symbol and all that stand inside it have such heads. -/
def HeadsAre (P : TypeHead → Prop) (s : Symbol) : Prop := ∀ part ∈ s.parts, P part.head

variable {P : TypeHead → Prop} {s t : Symbol}

theorem parts_eq (s : Symbol) : s.parts = s :: partsOfAll s.references := by
  cases s
  rfl

theorem mem_partsOfAll {part : Symbol} {symbols : List Symbol} :
    part ∈ partsOfAll symbols ↔ ∃ s ∈ symbols, part ∈ s.parts := by
  induction symbols with
  | nil => simp [partsOfAll]
  | cons s symbols ih => simp [partsOfAll, ih]

theorem headsAre_iff : s.HeadsAre P ↔ P s.head ∧ ∀ r ∈ s.references, r.HeadsAre P := by
  unfold HeadsAre
  rw [parts_eq, List.forall_mem_cons]
  refine and_congr_right fun _ => ?_
  constructor
  · exact fun h r hr part hpart => h part (mem_partsOfAll.2 ⟨r, hr, hpart⟩)
  · intro h part hpart
    obtain ⟨r, hr, hpart⟩ := mem_partsOfAll.1 hpart
    exact h r hr part hpart

theorem head_ofName (name ns : String) : (ofName name ns).head = ⟨ns, name, []⟩ := rfl

/-- What is wrapped around a type leaves its head and what stands inside it. -/
structure IsAround (t s : Symbol) : Prop where
  head : t.head = s.head
  references : t.references = s.references

theorem HeadsAre.around (h : s.HeadsAre P) (ht : t.IsAround s) : t.HeadsAre P := by
  rw [headsAre_iff] at h ⊢
  rwa [ht.head, ht.references]

theorem isAround_withNullable (s : Symbol) (nullable : Bool) :
    (s.withNullable nullable).IsAround s := ⟨rfl, rfl⟩

theorem isAround_withFallback (s : Symbol) (expr : String) : (s.withFallback expr).IsAround s :=
  ⟨rfl, rfl⟩

theorem isAround_boxed (s : Symbol) : s.boxed.IsAround s := ⟨rfl, rfl⟩

theorem IsAround.trans {u : Symbol} (h : t.IsAround s) (h' : s.IsAround u) : t.IsAround u :=
  ⟨h.head.trans h'.head, h.references.trans h'.references⟩

end Symbol

namespace Shape

open ClientGen.Symbol (HeadsAre IsAround)

/-- The head of the type of a shape; `ns` is the module of the generated types. -/
def head (s : Shape) (ns : String) : TypeHead :=
  match s.kind with
  | .structure _ | .union _ | .enum _ => ⟨ns, s.generatedName, []⟩
  | .primitive p => p.symbol.head
  | .list _ | .set _ => ⟨"", "Vec", []⟩
  | .map .. => ⟨"std::collections", "HashMap", []⟩

variable {s : Shape} {ns : String} {P : TypeHead → Prop} {symbol : Symbol}
  {f : ShapeId → Except GenerationError Symbol}

theorem isAround_finishSymbol (s : Shape) (symbol : Symbol) :
    (s.finishSymbol symbol).IsAround symbol := by
  unfold finishSymbol
  split <;> exact ⟨rfl, rfl⟩

theorem isAround_recordSymbol (s : Shape) (ns : String) :
    (s.recordSymbol ns).IsAround (.ofName s.generatedName ns) :=
  Symbol.isAround_withNullable _ true

theorem isAround_enumSymbol (s : Shape) (ns : String) :
    (s.enumSymbol ns).IsAround (.ofName s.generatedName ns) := by
  have hnullable := (Symbol.ofName s.generatedName ns).isAround_withNullable true
  unfold enumSymbol
  dsimp only
  split
  · exact (Symbol.isAround_withFallback _ _).trans hnullable
  · exact hnullable

theorem isAround_scalarSymbol {p : Primitive} (h : s.scalarSymbol p = .ok symbol) :
    symbol.IsAround p.symbol := by
  unfold scalarSymbol at h
  split at h
  · obtain ⟨expr, -, rfl⟩ := map_eq_ok.1 h
    exact p.symbol.isAround_withFallback expr
  · obtain rfl := Except.ok.inj h
    exact ⟨rfl, rfl⟩

theorem references_primitive (p : Primitive) : p.symbol.references = [] := by
  cases p <;> rfl

theorem isAround_listSymbol (s : Shape) (element : Symbol) :
    (s.listSymbol element).IsAround
      (.container "" "" "Vec" [element.withNullable s.traits.isSparse]) := by
  unfold listSymbol
  dsimp only
  split <;> exact ⟨rfl, rfl⟩

theorem isAround_mapSymbol (s : Shape) (key value : Symbol) :
    (s.mapSymbol key value).IsAround (.container "" "std::collections" "HashMap"
      [key.withNullable false, value.withNullable s.traits.isSparse]) := by
  unfold mapSymbol
  dsimp only
  split <;> exact ⟨rfl, rfl⟩

/-- The symbol of a shape has the head of the shape, and inside it the symbols of what it holds. -/
theorem head_symbolWith (h : s.symbolWith ns f = .ok symbol) : symbol.head = s.head ns ∧
    ∀ r ∈ symbol.references, ∃ e ∈ s.edges, s.isCollection = true ∧
      ∃ held, f e.target = .ok held ∧ r.IsAround held := by
  unfold symbolWith at h
  unfold head edges
  cases hkind : s.kind with
  | «structure» ms | union ms =>
    rw [hkind] at h
    obtain rfl := Except.ok.inj h
    have haround := (s.isAround_finishSymbol (s.recordSymbol ns)).trans
      (s.isAround_recordSymbol ns)
    rw [haround.head, haround.references]
    exact ⟨Symbol.head_ofName _ _, List.forall_mem_nil _⟩
  | enum vs =>
    rw [hkind] at h
    obtain rfl := Except.ok.inj h
    have haround := (s.isAround_finishSymbol (s.enumSymbol ns)).trans (s.isAround_enumSymbol ns)
    rw [haround.head, haround.references]
    exact ⟨Symbol.head_ofName _ _, List.forall_mem_nil _⟩
  | primitive p =>
    rw [hkind] at h
    obtain ⟨scalar, hscalar, rfl⟩ := map_eq_ok.1 h
    have haround := (s.isAround_finishSymbol scalar).trans (isAround_scalarSymbol hscalar)
    refine ⟨haround.head, ?_⟩
    rw [haround.references, references_primitive]
    exact List.forall_mem_nil _
  | list e | set e =>
    rw [hkind] at h
    obtain ⟨element, helement, rfl⟩ := map_eq_ok.1 h
    have haround := (s.isAround_finishSymbol (s.listSymbol element)).trans
      (s.isAround_listSymbol element)
    refine ⟨haround.head, ?_⟩
    rw [haround.references]
    exact List.forall_mem_singleton.2 ⟨e, List.mem_singleton_self e, by simp [isCollection, hkind],
      element, helement, element.isAround_withNullable _⟩
  | map k v =>
    rw [hkind] at h
    obtain ⟨key, hkey, h⟩ := bind_eq_ok.1 h
    obtain ⟨value, hvalue, rfl⟩ := map_eq_ok.1 h
    have haround := (s.isAround_finishSymbol (s.mapSymbol key value)).trans
      (s.isAround_mapSymbol key value)
    have hcollection : s.isCollection = true := by simp [isCollection, hkind]
    refine ⟨haround.head, ?_⟩
    rw [haround.references]
    refine List.forall_mem_cons.2 ⟨?_, List.forall_mem_singleton.2 ?_⟩
    · exact ⟨k, List.mem_cons_self, hcollection, key, hkey, key.isAround_withNullable _⟩
    · exact ⟨v, by simp, hcollection, value, hvalue, value.isAround_withNullable _⟩

theorem headsAre_symbolWith (h : s.symbolWith ns f = .ok symbol) (hself : P (s.head ns))
    (hheld : ∀ e ∈ s.edges, s.isCollection = true → ∀ held, f e.target = .ok held →
      held.HeadsAre P) : symbol.HeadsAre P := by
  obtain ⟨hhead, hinside⟩ := head_symbolWith h
  rw [Symbol.headsAre_iff, hhead]
  refine ⟨hself, fun r hr => ?_⟩
  obtain ⟨e, he, hcollection, held, hresult, haround⟩ := hinside r hr
  exact (hheld e he hcollection held hresult).around haround

end Shape

namespace Model

variable {m : Model} {ids : List ShapeId} {ns : String} {s : Shape} {e : Member} {symbol : Symbol}

/-- The type has the head of one of the shapes. -/
def HasHead (m : Model) (ids : List ShapeId) (ns : String) (head : TypeHead) : Prop :=
  ∃ s, m.IsAmong ids s ∧ head = s.head ns

/-- In the symbol of a shape stand types of shapes among which are those that it leads to. -/
theorem headsAre_symbolFrom (h : m.IsClosed ids) {path : List ShapeId} {id : ShapeId}
    (hid : id ∈ ids) (hsymbol : m.symbolFrom ns path id = .ok symbol) :
    symbol.HeadsAre (m.HasHead ids ns) := by
  induction path, id using path_induction (m := m) generalizing symbol with
  | repeated path id hpath =>
    rw [symbolFrom_cycle hpath] at hsymbol
    cases hsymbol
  | undefined path id hpath hs =>
    rw [symbolFrom_undefined hpath hs] at hsymbol
    cases hsymbol
  | shape path id s hpath hs ih =>
    rw [symbolFrom_shape hpath hs] at hsymbol
    refine Shape.headsAre_symbolWith hsymbol ⟨s, isAmong_of_shape? hid hs, rfl⟩ ?_
    intro e he hcollection held hheld
    exact ih e he hcollection (h.edges id hid s hs e he) hheld

theorem isAround_refineSymbol {owner : ShapeId} {target : Symbol}
    (h : m.refineSymbol owner e target = .ok symbol) : symbol.IsAround target := by
  have hbox : ∀ refined : Symbol, refined.IsAround target →
      (if m.needsBox owner e.name then refined.boxed else refined) = symbol →
      symbol.IsAround target := by
    rintro refined hrefined rfl
    split
    · exact refined.isAround_boxed.trans hrefined
    · exact hrefined
  obtain ⟨s, -, h⟩ := bind_eq_ok.1 h
  dsimp only at h
  split at h
  · exact hbox _ (target.isAround_withNullable false) (Except.ok.inj h)
  · split at h
    · obtain ⟨refined, hrefined, h⟩ := bind_eq_ok.1 h
      obtain ⟨expr, -, rfl⟩ := map_eq_ok.1 hrefined
      exact hbox _ (target.isAround_withFallback expr) (Except.ok.inj h)
    · obtain ⟨refined, hrefined, h⟩ := bind_eq_ok.1 h
      obtain rfl := Except.ok.inj hrefined
      refine hbox _ ?_ (Except.ok.inj h)
      exact ⟨rfl, rfl⟩

/-- In the symbol of a member stand types of shapes. -/
theorem headsAre_memberSymbol (h : m.IsClosed ids) (hs : m.IsAmong ids s) (he : e ∈ s.members)
    (hsymbol : m.memberSymbol ns s.id e = .ok symbol) : symbol.HeadsAre (m.HasHead ids ns) := by
  obtain ⟨target, htarget, hrefine⟩ := bind_eq_ok.1 hsymbol
  exact (headsAre_symbolFrom h (hs.target h he) htarget).around (isAround_refineSymbol hrefine)

end Model

end ClientGen
