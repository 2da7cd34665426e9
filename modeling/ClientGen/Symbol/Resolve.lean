import ClientGen.Graph.Boxing
import ClientGen.Naming
import ClientGen.Symbol.Basic
import ClientGen.Text.Quoted

/-!
# The symbols of shapes and members

A shape is nullable unless it has a default and is not boxed. A member refines the symbol of its
target: it is nullable only if it is optional, has no default of its own, and its target is nullable
or it is boxed itself. A variant of a union always has a value.
-/

namespace ClientGen

/-! ## Scalars -/

def Primitive.integerType? : Primitive → Option String
  | byte => some "i8"
  | short => some "i16"
  | integer => some "i32"
  | long => some "i64"
  | _ => none

/-- The symbol of a scalar type without traits. -/
def Primitive.symbol (p : Primitive) : Symbol :=
  let s : Symbol := match p with
    | boolean => .ofName "bool" ""
    | byte => .ofName "i8" ""
    | short => .ofName "i16" ""
    | integer => .ofName "i32" ""
    | long => .ofName "i64" ""
    | float => .ofName "f32" ""
    | double => .ofName "f64" ""
    | string => .ofName "String" ""
    | blob => (Symbol.container "Vec<u8>" "" "Vec" []).withDependency .base64
    | timestamp => .ofName "SystemTime" "std::time"
    | document => (Symbol.ofName "Value" "serde_json").withDependency .json
  s.withNullable true

def Json.Number.toDouble : Json.Number → Decimal.Double
  | .integer n => .ofFloat (Float.ofInt n)
  | .double d => d

/-- The expression of a scalar type for a default value. Integers must fit sixty-four bits with
their sign, and binary data must be empty. -/
def Primitive.literal? (p : Primitive) (value : Json.Value) : Option String :=
  match p, value with
  | .boolean, .bool b => some (toString b)
  | .float, .number n | .double, .number n => some n.toDouble.sourceText
  | .string, .string s => some s!"String::from({Text.literal s})"
  | .blob, .string s => if s.isEmpty then some "Vec::new()" else none
  | p, .number (.integer n) => if p.isInteger && n < Nat.pow 2 63 then some (toString n) else none
  | _, _ => none

/-- The expression for a default value, as far as the type has one for it. -/
def Primitive.literal (p : Primitive) (value : Json.Value) (id : ShapeId) :
    Except GenerationError String :=
  match p.literal? value with
  | some expr => .ok expr
  | none => .error (.config (.unsupportedDefault value id))

/-! ## Shapes -/

namespace Shape

/-- The name of the type that is generated for a shape. -/
def generatedName (s : Shape) : String := Naming.typeName s.id.name

/-- The symbol of a structure or union. -/
def recordSymbol (s : Shape) (ns : String) : Symbol :=
  (Symbol.ofName s.generatedName ns).withNullable true

/-- The symbol of an enum. A default that is not a string does not count. -/
def enumSymbol (s : Shape) (ns : String) : Symbol :=
  let symbol := (Symbol.ofName s.generatedName ns).withNullable true
  match s.traits.default? with
  | some (.string value) => symbol.withFallback s!"{s.generatedName}::from({Text.literal value})"
  | _ => symbol

/-- The symbol of a list or set with elements of a symbol. -/
def listSymbol (s : Shape) (element : Symbol) : Symbol :=
  let element := element.withNullable s.traits.isSparse
  let symbol :=
    (Symbol.container s!"Vec<{element.declaredType}>" "" "Vec" [element]).withNullable true
  if s.traits.default?.isSome then symbol.withFallback "Vec::new()" else symbol

/-- The symbol of a map with keys and values of some symbols. -/
def mapSymbol (s : Shape) (key value : Symbol) : Symbol :=
  let key := key.withNullable false
  let value := value.withNullable s.traits.isSparse
  let symbol := (Symbol.container s!"HashMap<{key.name}, {value.declaredType}>"
    "std::collections" "HashMap" [key, value]).withNullable true
  if s.traits.default?.isSome then symbol.withFallback "HashMap::new()" else symbol

def scalarSymbol (s : Shape) (p : Primitive) : Except GenerationError Symbol :=
  match s.traits.default? with
  | some value => (p.literal value s.id).map p.symbol.withFallback
  | none => .ok p.symbol

/-- A boxed shape stays nullable in spite of a default. -/
def finishSymbol (s : Shape) (symbol : Symbol) : Symbol :=
  if s.traits.isBoxed then { symbol with nullable := true, fallback := none } else symbol

end Shape

/-- The default of a member that is not boxed. -/
def Member.fallback? (e : Member) : Option Json.Value :=
  if e.traits.isBoxed then none else e.traits.default?

namespace Model

/-- The symbol of a shape to which `resolving` leads through collections. -/
def symbolFrom (m : Model) (ns : String) (resolving : List ShapeId) (id : ShapeId) :
    Except GenerationError Symbol :=
  if _hnew : id ∈ resolving then .error (.invalidGraph .collectionCycle (resolving ++ [id]))
  else
    match _hs : m.shape? id with
    | none => .error (.unresolvedShape id (.stage "symbol resolution"))
    | some s =>
      match s.kind with
      | .structure _ | .union _ => .ok (s.finishSymbol (s.recordSymbol ns))
      | .enum _ => .ok (s.finishSymbol (s.enumSymbol ns))
      | .primitive p => (s.scalarSymbol p).map s.finishSymbol
      | .list e | .set e => do
        let element ← m.symbolFrom ns (resolving ++ [id]) e.target
        .ok (s.finishSymbol (s.listSymbol element))
      | .map k v => do
        let key ← m.symbolFrom ns (resolving ++ [id]) k.target
        let value ← m.symbolFrom ns (resolving ++ [id]) v.target
        .ok (s.finishSymbol (s.mapSymbol key value))
termination_by m.unseen resolving
decreasing_by
  all_goals exact unseen_lt _hs _hnew (by simp) fun _ h => by simp [h]

/-- The symbol of a shape; `ns` is the module of the generated types. -/
def symbol (m : Model) (ns : String) (id : ShapeId) : Except GenerationError Symbol :=
  m.symbolFrom ns [] id

/-! ## Members -/

/-- The expression for the default of a member whose target has the symbol. -/
def memberLiteral (m : Model) (owner : ShapeId) (e : Member) (symbol : Symbol)
    (value : Json.Value) : Except GenerationError String := do
  let target ← m.resolveShape e.target (.owner owner.name)
  match target.kind, value with
  | .primitive p, _ => p.literal value e.target
  | .enum _, .string text => .ok s!"{symbol.name}::from({Text.literal text})"
  | .list _, _ | .set _, _ => .ok "Vec::new()"
  | .map .., _ => .ok "HashMap::new()"
  | _, _ => .error (.config (.unsupportedDefault value e.target))

/-- The symbol of a member whose target has the symbol. -/
def refineSymbol (m : Model) (owner : ShapeId) (e : Member) (target : Symbol) :
    Except GenerationError Symbol := do
  let s ← m.resolveShape owner (.stage "member symbol")
  let symbol ←
    if s.isUnion then .ok (target.withNullable false)
    else match e.fallback? with
      | some value => (m.memberLiteral owner e target value).map target.withFallback
      | none =>
        let nullable := e.isOptional && (target.nullable || e.traits.isBoxed)
        .ok { target with nullable, fallback := if nullable then none else target.fallback }
  .ok (if m.needsBox owner e.name then symbol.boxed else symbol)

def memberSymbol (m : Model) (ns : String) (owner : ShapeId) (e : Member) :
    Except GenerationError Symbol := do
  m.refineSymbol owner e (← m.symbol ns e.target)

end Model

/-- The module that holds the generated types. -/
def modelNamespace : String := "crate::model"

end ClientGen
