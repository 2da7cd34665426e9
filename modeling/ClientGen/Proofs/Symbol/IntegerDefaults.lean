import ClientGen.Proofs.Codec.AbsentValues
import Mathlib.Algebra.Group.Int.Defs
import Mathlib.Algebra.Group.Nat.Defs

/-!
# Defaults of integer types

A default of an integer type is written as it is if it has sixty-four bits, and refused if not. The
types of eight, sixteen and thirty-two bits hold fewer numbers than that, so that a default that is
written need not be one of them.
-/

namespace ClientGen

/-- The bits of the integer type of a scalar. -/
def Primitive.bits? : Primitive → Option Nat
  | byte => some 8
  | short => some 16
  | integer => some 32
  | long => some 64
  | _ => none

namespace Json.Value

/-- The value is a number that an integer type of so many bits holds. -/
def Fits (bits : Nat) (v : Value) : Prop :=
  ∃ n, v = .number (.integer n) ∧ -2 ^ (bits - 1) ≤ n ∧ n < 2 ^ (bits - 1)

/-- No integer is less than those of sixty-four bits. A smaller number is read as a double. -/
def IsBounded (v : Value) : Prop := ∀ n, v = .number (.integer n) → -2 ^ 63 ≤ n

end Json.Value

open Json (Value)

namespace Primitive

variable {p : Primitive} {bits : Nat} {v : Value} {id : ShapeId}

theorem name_symbol (hbits : p.bits? = some bits) : p.symbol.name = s!"i{bits}" := by
  cases p <;> cases hbits <;> rfl

theorem bits_le (hbits : p.bits? = some bits) : bits ≤ 64 := by
  cases p <;> cases hbits <;> decide

theorem literal?_integer (hbits : p.bits? = some bits) (n : Int) :
    p.literal? (.number (.integer n)) = if n < 2 ^ 63 then some (toString n) else none := by
  cases p <;> cases hbits <;> simp [literal?, isInteger]

theorem literal?_eq_some (hbits : p.bits? = some bits) {expr : String}
    (h : p.literal? v = some expr) : ∃ n, v = .number (.integer n) := by
  cases v with
  | number number =>
    cases number with
    | integer n => exact ⟨n, rfl⟩
    | double d => cases p <;> cases hbits <;> cases h
  | _ => cases p <;> cases hbits <;> cases h

/-- A default is written as it is if it is an integer of sixty-four bits, and refused if not. -/
theorem literal_cases (hbits : p.bits? = some bits) (hv : v.IsBounded) (id : ShapeId) :
    (v.Fits 64 ∧ ∃ n, v = .number (.integer n) ∧ p.literal v id = .ok (toString n)) ∨
      (¬ v.Fits 64 ∧ p.literal v id = .error (.config (.unsupportedDefault v id))) := by
  unfold literal
  by_cases hfits : v.Fits 64
  · refine .inl ⟨hfits, ?_⟩
    obtain ⟨n, rfl, -, hn⟩ := hfits
    refine ⟨n, rfl, ?_⟩
    rw [literal?_integer hbits, if_pos hn]
  · refine .inr ⟨hfits, ?_⟩
    cases hliteral : p.literal? v with
    | none => rfl
    | some expr =>
      obtain ⟨n, rfl⟩ := literal?_eq_some hbits hliteral
      have hn : ¬ n < 2 ^ 63 := fun hn => hfits ⟨n, rfl, hv n rfl, hn⟩
      rw [literal?_integer hbits, if_neg hn] at hliteral
      cases hliteral

end Primitive

theorem Json.Value.Fits.mono {v : Value} {bits bits' : Nat} (h : v.Fits bits) (hle : bits ≤ bits') :
    v.Fits bits' := by
  obtain ⟨n, hn, hlow, hhigh⟩ := h
  have hpow : (2 : Int) ^ (bits - 1) ≤ 2 ^ (bits' - 1) := by
    exact_mod_cast Nat.pow_le_pow_right (by decide) (Nat.sub_le_sub_right hle 1)
  exact ⟨n, hn, by omega, by omega⟩

/-- What becomes of a default: an expression if it has sixty-four bits, and an error if not. -/
structure DefaultOutcome (v : Value) (id : ShapeId) (written : String → Option String)
    (r : Except GenerationError Symbol) : Prop where
  ok : v.Fits 64 → ∃ n symbol, v = .number (.integer n) ∧ r = .ok symbol ∧
    symbol.fallback = written (toString n)
  error : ¬ v.Fits 64 → r = .error (.config (.unsupportedDefault v id))

theorem Primitive.defaultOutcome_literal {p : Primitive} {bits : Nat} {v : Value}
    (hbits : p.bits? = some bits) (hv : v.IsBounded) (id : ShapeId) {f : String → Symbol}
    {written : String → Option String} (hf : ∀ expr, (f expr).fallback = written expr) :
    DefaultOutcome v id written ((p.literal v id).map f) := by
  rcases literal_cases hbits hv id with ⟨hfits, n, hn, hliteral⟩ | ⟨hfits, hliteral⟩
  · refine ⟨fun _ => ⟨n, f (toString n), hn, ?_, hf _⟩, fun h => absurd hfits h⟩
    rw [hliteral]
    rfl
  · refine ⟨fun h => absurd h hfits, fun _ => ?_⟩
    rw [hliteral]
    rfl

namespace Model

variable {m : Model} {ns : String} {s owner : Shape} {p : Primitive} {bits : Nat} {v : Value}
  {e : Member} {target : Symbol}

theorem defaultOutcome_symbol (hs : m.shape? s.id = some s) (hkind : s.kind = .primitive p)
    (hbits : p.bits? = some bits) (hv : v.IsBounded) (hdefault : s.traits.default? = some v) :
    DefaultOutcome v s.id (fun expr => if s.traits.isBoxed then none else some expr)
      (m.symbol ns s.id) := by
  have hsymbol : m.symbol ns s.id =
      (p.literal v s.id).map fun expr => s.finishSymbol (p.symbol.withFallback expr) := by
    rw [symbol_shape hs, Shape.symbolWith, hkind]
    dsimp only
    rw [Shape.scalarSymbol, hdefault]
    dsimp only
    cases p.literal v s.id <;> rfl
  rw [hsymbol]
  refine Primitive.defaultOutcome_literal hbits hv s.id fun expr => ?_
  unfold Shape.finishSymbol
  split <;> rfl

theorem defaultOutcome_memberSymbol (hs : m.shape? e.target = some s)
    (hkind : s.kind = .primitive p) (hbits : p.bits? = some bits) (hv : v.IsBounded)
    (howner : m.shape? owner.id = some owner) (hunion : owner.isUnion = false)
    (htarget : m.symbol ns e.target = .ok target) (hdefault : e.fallback? = some v) :
    DefaultOutcome v e.target (fun expr => some (boxedExpr (m.needsBox owner.id e.name) expr))
      (m.memberSymbol ns owner.id e) := by
  have hliteral : m.memberLiteral owner.id e target v = p.literal v e.target := by
    rw [memberLiteral, ok_bind (resolveShape_eq_ok.2 hs), hkind]
  rw [memberSymbol_of_fallback howner hunion htarget hdefault, hliteral]
  refine Primitive.defaultOutcome_literal hbits hv e.target fun expr => ?_
  unfold boxedExpr
  split <;> rfl

/-- The default of a shape of an integer type, and that of a member that has such a shape as its
target, are written as they are if they have sixty-four bits, and refused if not. So whatever the
type holds is written, but a type of fewer bits does not hold all that is. -/
theorem defaultOutcome_integer (hs : m.shape? s.id = some s) (hkind : s.kind = .primitive p)
    (hbits : p.bits? = some bits) (hv : v.IsBounded) :
    p.symbol.name = s!"i{bits}" ∧
    (s.traits.default? = some v →
      DefaultOutcome v s.id (fun expr => if s.traits.isBoxed then none else some expr)
        (m.symbol ns s.id)) ∧
    (∀ (owner : Shape) (e : Member) (target : Symbol), m.shape? owner.id = some owner →
      owner.isUnion = false → e.target = s.id → m.symbol ns s.id = .ok target →
      e.fallback? = some v →
        DefaultOutcome v s.id (fun expr => some (boxedExpr (m.needsBox owner.id e.name) expr))
          (m.memberSymbol ns owner.id e)) ∧
    (v.Fits bits → v.Fits 64) ∧
    (bits < 64 → ∃ big : Value, big.Fits 64 ∧ ¬ big.Fits bits) := by
  refine ⟨Primitive.name_symbol hbits, defaultOutcome_symbol hs hkind hbits hv, ?_,
    fun hfits => hfits.mono (Primitive.bits_le hbits), fun hsmall => ?_⟩
  · intro owner e target howner hunion hid htarget hdefault
    rw [← hid] at hs htarget ⊢
    exact defaultOutcome_memberSymbol hs hkind hbits hv howner hunion htarget hdefault
  · have hpos : (0 : Int) < 2 ^ (bits - 1) := Int.pow_pos (by decide)
    have hlt : (2 : Int) ^ (bits - 1) < 2 ^ (64 - 1) := by
      exact_mod_cast Nat.pow_lt_pow_right (by decide) (by omega)
    refine ⟨.number (.integer (2 ^ (bits - 1))), ⟨_, rfl, by omega, hlt⟩, ?_⟩
    rintro ⟨n, hn, -, hhigh⟩
    cases hn
    exact absurd hhigh (Int.lt_irrefl _)

/-- A price of five by itself, and of seven in an order. -/
theorem defaultOutcome_integer_price :
    let price : Shape :=
      ⟨⟨"store", "Price"⟩, .primitive .integer, [.default (.number (.integer 5))]⟩
    let member : Member := ⟨"price", price.id, false, [.default (.number (.integer 7))]⟩
    let order : Shape := ⟨⟨"store", "Order"⟩, .structure [member], []⟩
    let m : Model := ⟨⟨[order, price], by decide⟩, .empty, .empty⟩
    (∃ symbol, m.symbol modelNamespace price.id = .ok symbol ∧ symbol.fallback = some "5") ∧
      ∃ symbol, m.memberSymbol modelNamespace order.id member = .ok symbol ∧
        symbol.fallback = some "7" := by
  intro price member order m
  have hprice : m.shape? price.id = some price := by decide
  have horder : m.shape? order.id = some order := by decide
  have htarget : m.symbol modelNamespace price.id =
      .ok (Primitive.integer.symbol.withFallback "5") := (symbol_shape hprice).trans rfl
  have hbounded : ∀ k : Int, -2 ^ 63 ≤ k → (Value.number (.integer k)).IsBounded := by
    intro k hk n hn
    cases hn
    exact hk
  obtain ⟨-, hshape, -⟩ := @defaultOutcome_integer m modelNamespace price .integer 32 _ hprice rfl
    rfl (hbounded 5 (by decide))
  obtain ⟨-, -, hmember, -⟩ := @defaultOutcome_integer m modelNamespace price .integer 32 _ hprice
    rfl rfl (hbounded 7 (by decide))
  constructor
  · obtain ⟨n, symbol, hn, hsymbol, hfallback⟩ := (hshape rfl).ok ⟨5, rfl, by decide, by decide⟩
    cases hn
    exact ⟨symbol, hsymbol, hfallback⟩
  · obtain ⟨n, symbol, hn, hsymbol, hfallback⟩ :=
      (hmember order member _ horder rfl rfl htarget rfl).ok ⟨7, rfl, by decide, by decide⟩
    cases hn
    refine ⟨symbol, hsymbol, hfallback.trans ?_⟩
    rw [needsBox_of_leaves horder (by decide)]
    rfl

/-- A byte with a default that it does not hold. -/
theorem fallback_byte_overflows :
    let small : Shape :=
      ⟨⟨"store", "Small"⟩, .primitive .byte, [.default (.number (.integer 128))]⟩
    let m : Model := ⟨⟨[small], by decide⟩, .empty, .empty⟩
    ¬ (Value.number (.integer 128)).Fits 8 ∧ ∃ symbol,
      m.symbol modelNamespace small.id = .ok symbol ∧ symbol.name = "i8" ∧
        symbol.fallback = some "128" := by
  intro small m
  have hsmall : m.shape? small.id = some small := by decide
  refine ⟨?_, _, (symbol_shape hsmall).trans rfl, rfl, rfl⟩
  rintro ⟨n, hn, -, hhigh⟩
  cases hn
  exact absurd hhigh (by decide)

end Model

end ClientGen
