import ClientGen.Proofs.Graph.Outline
import ClientGen.Proofs.Symbol.Paths

/-!
# Symbols in an outline

The symbol of a shape is made of its name, its kind, its default and the symbols of what it leads
to; the symbol of a member also depends on whether the member has to be boxed. So symbols are the
same in an outline.
-/

namespace ClientGen

/-! ## Shapes without documentation -/

@[simp] theorem Member.fallback?_undocumented (e : Member) :
    e.undocumented.fallback? = e.fallback? := by
  simp [fallback?]

namespace Shape

variable (s : Shape)

@[simp] theorem generatedName_undocumented : s.undocumented.generatedName = s.generatedName := rfl

@[simp] theorem recordSymbol_undocumented (ns : String) :
    s.undocumented.recordSymbol ns = s.recordSymbol ns := rfl

@[simp] theorem enumSymbol_undocumented (ns : String) :
    s.undocumented.enumSymbol ns = s.enumSymbol ns := by
  simp [enumSymbol]

@[simp] theorem listSymbol_undocumented (element : Symbol) :
    s.undocumented.listSymbol element = s.listSymbol element := by
  simp [listSymbol]

@[simp] theorem mapSymbol_undocumented (key value : Symbol) :
    s.undocumented.mapSymbol key value = s.mapSymbol key value := by
  simp [mapSymbol]

@[simp] theorem scalarSymbol_undocumented (p : Primitive) :
    s.undocumented.scalarSymbol p = s.scalarSymbol p := by
  simp [scalarSymbol]

@[simp] theorem finishSymbol_undocumented (symbol : Symbol) :
    s.undocumented.finishSymbol symbol = s.finishSymbol symbol := by
  simp [finishSymbol]

@[simp] theorem symbolWith_undocumented (ns : String)
    (symbolOf : ShapeId → Except GenerationError Symbol) :
    s.undocumented.symbolWith ns symbolOf = s.symbolWith ns symbolOf := by
  have hfinish : s.undocumented.finishSymbol = s.finishSymbol :=
    funext s.finishSymbol_undocumented
  unfold symbolWith
  rw [kind_undocumented]
  cases s.kind <;> simp [hfinish]

end Shape

/-! ## Shapes and members of a part -/

namespace Model.IsOutline

variable {k m : Model} {P Q : ShapeId → Prop}

theorem symbolFrom (h : k.IsOutline m P Q) (ns : String) (path : List ShapeId) {id : ShapeId}
    (hid : P id) : k.symbolFrom ns path id = m.symbolFrom ns path id := by
  induction path, id using path_induction (m := m) with
  | repeated path id hpath => rw [symbolFrom_cycle hpath, symbolFrom_cycle hpath]
  | undefined path id hnew hs =>
    rw [symbolFrom_undefined hnew hs, symbolFrom_undefined hnew (h.shape?_eq_none hid hs)]
  | shape path id s hnew hs ih =>
    rw [symbolFrom_shape hnew hs, symbolFrom_shape hnew (h.shape?_eq_some hid hs),
      Shape.symbolWith_undocumented]
    exact Shape.symbolWith_congr fun e he hcollection =>
      ih e he hcollection (h.target id s hid hs e he)

theorem symbol (h : k.IsOutline m P Q) (ns : String) {id : ShapeId} (hid : P id) :
    k.symbol ns id = m.symbol ns id :=
  h.symbolFrom ns [] hid

theorem memberLiteral (h : k.IsOutline m P Q) (owner : ShapeId) {e : Member} (he : P e.target)
    (symbol : Symbol) (value : Json.Value) :
    k.memberLiteral owner e.undocumented symbol value = m.memberLiteral owner e symbol value := by
  refine h.resolve_congr he fun t _ => ?_
  rw [Shape.kind_undocumented]
  cases t.kind <;> rfl

theorem refineSymbol (h : k.IsOutline m P Q) {owner : ShapeId} (howner : P owner) {e : Member}
    (he : P e.target) (target : Symbol) :
    k.refineSymbol owner e.undocumented target = m.refineSymbol owner e target := by
  refine h.resolve_congr howner fun s _ => ?_
  rw [Shape.isUnion_undocumented, Member.fallback?_undocumented, Member.name_undocumented,
    h.needsBox howner, Member.isOptional_undocumented, Member.traits_undocumented,
    Traits.isBoxed_undocumented]
  simp only [h.memberLiteral owner he]

theorem memberSymbol (h : k.IsOutline m P Q) (ns : String) {owner : ShapeId} (howner : P owner)
    {e : Member} (he : P e.target) :
    k.memberSymbol ns owner e.undocumented = m.memberSymbol ns owner e := by
  unfold Model.memberSymbol
  rw [Member.target_undocumented, h.symbol ns he]
  exact bind_congr_of_ok fun target _ => h.refineSymbol howner he target

end Model.IsOutline

end ClientGen
