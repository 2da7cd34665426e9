import ClientGen.Proofs.Codec.AbsentValues

/-!
# Defaults of types that are not scalar

An enum has an expression for each text, a collection has one for the empty collection of its kind,
and a record has none. A member refuses a default that its target has no expression for, but a type
by itself takes it and has no default then. No collection looks at what its default holds, so that
each default of a collection becomes the empty one.
-/

namespace ClientGen

open Json (Value)

namespace Shape

/-- The expression of the type denotes the value. -/
inductive Denotes (t : Shape) : String → Value → Prop
  | text {values : List EnumValue} (hkind : t.kind = .enum values) (text : String) :
    t.Denotes s!"{t.generatedName}::from({Text.literal text})" (.string text)
  | list {e : Member} (hkind : t.kind = .list e) : t.Denotes "Vec::new()" (.array [])
  | set {e : Member} (hkind : t.kind = .set e) : t.Denotes "Vec::new()" (.array [])
  | map {k v : Member} (hkind : t.kind = .map k v) : t.Denotes "HashMap::new()" (.object [])

/-- Some expression of the type denotes the value. -/
def Expresses (t : Shape) (v : Value) : Prop := ∃ expr, t.Denotes expr v

/-- A default is accounted for: the symbol has an expression that denotes it, with what is written
around it, or the default is a configuration error. -/
def Accounts (t : Shape) (v : Value) (written : String → String)
    (r : Except GenerationError Symbol) : Prop :=
  (∃ symbol expr, r = .ok symbol ∧ symbol.fallback = some (written expr) ∧ t.Denotes expr v) ∨
    ∃ fault, r = .error (.config fault)

variable {t : Shape} {ns : String} {v : Value} {expr : String} {written : String → String}
  {symbol : Symbol} {r : Except GenerationError Symbol}

theorem defaultExpr?_of_denotes (h : t.Denotes expr v) : t.defaultExpr? v = some expr := by
  unfold defaultExpr?
  cases h with
  | text hkind | list hkind | set hkind | map hkind => rw [hkind]

/-- What a type other than a collection is rendered as denotes the value. -/
theorem denotes_of_defaultExpr? (hscalar : ∀ p, t.kind ≠ .primitive p)
    (hleaf : t.isCollection = false) (h : t.defaultExpr? v = some expr) : t.Denotes expr v := by
  unfold defaultExpr? at h
  unfold isCollection at hleaf
  cases hkind : t.kind with
  | primitive p => exact absurd hkind (hscalar p)
  | enum values =>
    rw [hkind] at h
    cases v with
    | string text =>
      obtain rfl := Option.some.inj h
      exact .text hkind text
    | _ => cases h
  | «structure» _ | union _ =>
    rw [hkind] at h
    cases h
  | list _ | set _ | map _ _ =>
    rw [hkind] at hleaf
    cases hleaf

theorem defaultExpr?_isSome_of_isCollection (h : t.isCollection = true) (v : Value) :
    (t.defaultExpr? v).isSome = true := by
  unfold isCollection at h
  unfold defaultExpr?
  cases hkind : t.kind with
  | list _ | set _ | map _ _ => rfl
  | _ =>
    rw [hkind] at h
    cases h

theorem accounts_ok (hr : r = .ok symbol)
    (hfallback : symbol.fallback = (t.defaultExpr? v).map written) :
    t.Accounts v written r ↔ t.Expresses v := by
  constructor
  · rintro (⟨_, expr, -, -, hdenotes⟩ | ⟨fault, hfault⟩)
    · exact ⟨expr, hdenotes⟩
    · rw [hr] at hfault
      cases hfault
  · rintro ⟨expr, hdenotes⟩
    refine .inl ⟨symbol, expr, hr, ?_, hdenotes⟩
    rw [hfallback, defaultExpr?_of_denotes hdenotes]
    rfl

/-- A type that is not scalar has a symbol if what it holds has one. -/
theorem exists_symbolWith {f : ShapeId → Except GenerationError Symbol}
    (hscalar : ∀ p, t.kind ≠ .primitive p)
    (hheld : ∀ e ∈ t.edges, t.isCollection = true → ∃ held, f e.target = .ok held) :
    ∃ symbol, t.symbolWith ns f = .ok symbol := by
  unfold symbolWith
  cases hkind : t.kind with
  | primitive p => exact absurd hkind (hscalar p)
  | «structure» _ | union _ | enum _ => exact ⟨_, rfl⟩
  | list e | set e =>
    obtain ⟨element, helement⟩ := hheld e (by simp [edges, hkind]) (by simp [isCollection, hkind])
    exact ⟨_, map_eq_ok.2 ⟨element, helement, rfl⟩⟩
  | map k v =>
    obtain ⟨key, hkey⟩ := hheld k (by simp [edges, hkind]) (by simp [isCollection, hkind])
    obtain ⟨value, hvalue⟩ := hheld v (by simp [edges, hkind]) (by simp [isCollection, hkind])
    exact ⟨_, bind_eq_ok.2 ⟨key, hkey, map_eq_ok.2 ⟨value, hvalue, rfl⟩⟩⟩

end Shape

namespace Model

variable {m : Model} {ns : String} {t owner : Shape} {v : Value} {e : Member} {target : Symbol}

/-- A type that is not scalar has a symbol, with the expression of its default if there is one. -/
theorem fallback_symbol (ht : m.shape? t.id = some t) (hscalar : ∀ p, t.kind ≠ .primitive p)
    (hheld : ∀ e ∈ t.edges, t.isCollection = true →
      ∃ held, m.symbolFrom ns [t.id] e.target = .ok held) :
    ∃ symbol, m.symbol ns t.id = .ok symbol ∧ symbol.fallback = t.suppliedExpr? := by
  obtain ⟨symbol, hsymbol⟩ : ∃ symbol, t.symbolWith ns (m.symbolFrom ns [t.id]) = .ok symbol :=
    Shape.exists_symbolWith hscalar hheld
  exact ⟨symbol, (symbol_shape ht).trans hsymbol, (Shape.hasFallback_symbolWith hsymbol).1⟩

/-- A member has the expression of its default, and is refused if there is none. -/
theorem fallback_memberSymbol (ht : m.shape? e.target = some t)
    (htarget : m.symbol ns e.target = .ok target) (howner : m.shape? owner.id = some owner)
    (hunion : owner.isUnion = false) (hown : e.fallback? = some v) :
    (∃ expr symbol, t.defaultExpr? v = some expr ∧ m.memberSymbol ns owner.id e = .ok symbol ∧
      symbol.fallback = some (boxedExpr (m.needsBox owner.id e.name) expr)) ∨
    (t.defaultExpr? v = none ∧
      m.memberSymbol ns owner.id e = .error (.config (.unsupportedDefault v e.target))) := by
  rw [memberSymbol_of_fallback howner hunion htarget hown, memberLiteral_eq ht htarget]
  cases t.defaultExpr? v with
  | none => exact .inr ⟨rfl, rfl⟩
  | some expr =>
    refine .inl ⟨expr, _, rfl, rfl, ?_⟩
    unfold boxedExpr
    split <;> rfl

/-- What becomes of a default of a type that is not scalar, by itself and as that of a member. By
itself the type always has a symbol, so that a default is accounted for only where the type has an
expression that denotes it. A member has a symbol exactly where there is an expression for its
default, so that only the defaults of collections may not be accounted for. -/
theorem accounts_default (ht : m.shape? t.id = some t) (hscalar : ∀ p, t.kind ≠ .primitive p)
    (hheld : ∀ e ∈ t.edges, t.isCollection = true →
      ∃ held, m.symbolFrom ns [t.id] e.target = .ok held) (v : Value) :
    (t.traits.default? = some v → t.traits.isBoxed = false →
      (∃ symbol, m.symbol ns t.id = .ok symbol ∧ symbol.fallback = t.defaultExpr? v) ∧
      (t.Accounts v id (m.symbol ns t.id) ↔ t.Expresses v)) ∧
    ∀ (owner : Shape) (e : Member), m.shape? owner.id = some owner → owner.isStructure = true →
      e.target = t.id → e.fallback? = some v →
      let written := boxedExpr (m.needsBox owner.id e.name)
      ((t.defaultExpr? v).isSome = true ↔ ∃ symbol, m.memberSymbol ns owner.id e = .ok symbol ∧
        symbol.fallback = (t.defaultExpr? v).map written) ∧
      (t.defaultExpr? v = none ↔
        m.memberSymbol ns owner.id e = .error (.config (.unsupportedDefault v t.id))) ∧
      (t.Accounts v written (m.memberSymbol ns owner.id e) ↔
        t.Expresses v ∨ t.isCollection = false) := by
  obtain ⟨symbol, hsymbol, hfallback⟩ := fallback_symbol ht hscalar hheld
  constructor
  · intro hdefault hboxed
    have hexpr : symbol.fallback = t.defaultExpr? v := by
      rw [hfallback, Shape.suppliedExpr?, hboxed, hdefault]
      rfl
    exact ⟨⟨symbol, hsymbol, hexpr⟩,
      Shape.accounts_ok hsymbol (hexpr.trans Option.map_id'.symm)⟩
  · intro owner e howner hstructure htarget hown written
    rw [← htarget] at ht hsymbol ⊢
    rcases fallback_memberSymbol ht hsymbol howner (Shape.isUnion_of_isStructure hstructure) hown
      with ⟨expr, refined, hexpr, hok, hrefined⟩ | ⟨hnone, herror⟩
    · rw [hok, hexpr]
      refine ⟨by simp [hrefined, written], by simp, ?_⟩
      rw [Shape.accounts_ok rfl (by rw [hexpr, hrefined]; rfl)]
      refine ⟨.inl, fun h => h.elim id fun hleaf => ?_⟩
      exact ⟨expr, Shape.denotes_of_defaultExpr? hscalar hleaf hexpr⟩
    · rw [herror, hnone]
      refine ⟨by simp, by simp, iff_of_true (.inr ⟨_, rfl⟩) (.inr ?_)⟩
      -- A collection has an expression for every default.
      by_contra hcollection
      have hsome := Shape.defaultExpr?_isSome_of_isCollection (Bool.not_eq_false _ ▸ hcollection) v
      rw [hnone] at hsome
      cases hsome

/-- The default of tags that are empty is accounted for, by itself and as that of a member. -/
theorem accounts_default_tags :
    let string : Shape := .ofPrimitive .string
    let tags : Shape :=
      ⟨⟨"store", "Tags"⟩, .list ⟨"member", string.id, false, []⟩, [.default (.array [])]⟩
    let member : Member := ⟨"tags", tags.id, false, [.default (.array [])]⟩
    let item : Shape := ⟨⟨"store", "Item"⟩, .structure [member], []⟩
    let m : Model := ⟨⟨[string, item, tags], by decide⟩, .empty, .empty⟩
    tags.Accounts (.array []) id (m.symbol modelNamespace tags.id) ∧
      tags.Accounts (.array []) (boxedExpr (m.needsBox item.id "tags"))
        (m.memberSymbol modelNamespace item.id member) := by
  intro string tags member item m
  have htags : m.shape? tags.id = some tags := by decide
  have hitem : m.shape? item.id = some item := by decide
  have hstring : m.shape? string.id = some string := by decide
  have hexpresses : tags.Expresses (.array []) := ⟨_, .list rfl⟩
  have hheld : ∀ e ∈ tags.edges, tags.isCollection = true →
      ∃ held, m.symbolFrom modelNamespace [tags.id] e.target = .ok held := by
    intro e he _
    obtain rfl := List.mem_singleton.1 he
    exact ⟨_, (symbolFrom_shape (by decide) hstring).trans rfl⟩
  obtain ⟨hshape, hmember⟩ := accounts_default htags (fun _ => nofun) hheld (.array [])
  exact ⟨(hshape rfl rfl).2.2 hexpresses,
    (hmember item member hitem rfl rfl rfl).2.2.2 (.inl hexpresses)⟩

/-- The default of five is passed over where an enum has it by itself, and refused where a member of
the enum has it. The default of one tag becomes that of none. -/
theorem default_passed_over :
    let string : Shape := .ofPrimitive .string
    let five : Value := .number (.integer 5)
    let tag : Value := .array [.string "new"]
    let paint : Shape := ⟨⟨"store", "Paint"⟩, .enum [⟨"Red", "red"⟩], [.default five]⟩
    let tags : Shape :=
      ⟨⟨"store", "Tags"⟩, .list ⟨"member", string.id, false, []⟩, [.default tag]⟩
    let member : Member := ⟨"paint", paint.id, false, [.default five]⟩
    let item : Shape := ⟨⟨"store", "Item"⟩, .structure [member], []⟩
    let m : Model := ⟨⟨[string, item, paint, tags], by decide⟩, .empty, .empty⟩
    (∃ symbol, m.symbol modelNamespace paint.id = .ok symbol ∧ symbol.fallback = none ∧
      symbol.nullable = true) ∧
    ¬ paint.Accounts five id (m.symbol modelNamespace paint.id) ∧
    m.memberSymbol modelNamespace item.id member =
      .error (.config (.unsupportedDefault five paint.id)) ∧
    (∃ symbol, m.symbol modelNamespace tags.id = .ok symbol ∧
      symbol.fallback = some "Vec::new()") ∧
    ¬ tags.Accounts tag id (m.symbol modelNamespace tags.id) := by
  intro string five tag paint tags member item m
  have hpaint : m.shape? paint.id = some paint := by decide
  have hitem : m.shape? item.id = some item := by decide
  have htags : m.shape? tags.id = some tags := by decide
  have hstring : m.shape? string.id = some string := by decide
  have hheld : ∀ e ∈ tags.edges, tags.isCollection = true →
      ∃ held, m.symbolFrom modelNamespace [tags.id] e.target = .ok held := by
    intro e he _
    obtain rfl := List.mem_singleton.1 he
    exact ⟨_, (symbolFrom_shape (by decide) hstring).trans rfl⟩
  obtain ⟨enum, henum, hnone⟩ : ∃ symbol, m.symbol modelNamespace paint.id = .ok symbol ∧
      symbol.HasFallback none := ⟨_, (symbol_shape hpaint).trans rfl, rfl, rfl⟩
  obtain ⟨list, hlist, hempty⟩ := fallback_symbol htags (fun _ => nofun) hheld
  refine ⟨⟨enum, henum, hnone⟩, ?_, ?_, ⟨list, hlist, hempty⟩, ?_⟩
  · refine (Shape.accounts_ok henum ?_).not.2 ?_
    · exact hnone.1
    · rintro ⟨expr, hdenotes⟩
      change paint.Denotes expr (.number (.integer 5)) at hdenotes
      cases hdenotes
  · rcases fallback_memberSymbol (e := member) hpaint henum hitem rfl rfl with
      ⟨expr, -, hexpr, -⟩ | ⟨-, herror⟩
    · cases hexpr
    · exact herror
  · refine (Shape.accounts_ok hlist ?_).not.2 ?_
    · exact hempty
    · rintro ⟨expr, hdenotes⟩
      change tags.Denotes expr (.array [.string "new"]) at hdenotes
      cases hdenotes

end Model

end ClientGen
