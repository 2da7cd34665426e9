import ClientGen.Proofs.Codec.Options

/-!
# What a decoder does without a value

A member of a structure that is absent or null on the wire is an error, is `None`, or has the
default that the model supplies for the member or for its target. The type of the member knows of a
default only where the member is not boxed, and the decoder asks for any default at all: so a
required member that is boxed and has a default is given the default of its type, which the model
has not supplied.
-/

namespace ClientGen

/-! ## Defaults that the model supplies -/

/-- The expression that a value of the shape is rendered as where it is a default. -/
def Shape.defaultExpr? (t : Shape) (v : Json.Value) : Option String :=
  match t.kind, v with
  | .primitive p, v => p.literal? v
  | .enum _, .string text => some s!"{t.generatedName}::from({Text.literal text})"
  | .list _, _ | .set _, _ => some "Vec::new()"
  | .map .., _ => some "HashMap::new()"
  | _, _ => none

/-- The default of a shape, as an expression. A boxed shape has none. -/
def Shape.suppliedExpr? (t : Shape) : Option String :=
  if t.traits.isBoxed then none else t.traits.default?.bind t.defaultExpr?

namespace Model

/-- The default of a member as an expression: its own, or else that of its target. -/
def suppliedExpr? (m : Model) (e : Member) : Option String :=
  match m.shape? e.target with
  | none => none
  | some t =>
    match e.fallback? with
    | some v => t.defaultExpr? v
    | none => t.suppliedExpr?

end Model

def boxedExpr (boxed : Bool) (expr : String) : String :=
  if boxed then s!"Box::new({expr})" else expr

def missingArm (s : Shape) (e : Member) : Arm :=
  .block .absent [.fail "DecodeError::MissingRequiredMember"
    [("shape", .literal s.id.name), ("member", .literal e.wireName)]]

def absentValueArm (expr : String) : Arm := .value .absent (.source expr)

/-! ## Symbols and defaults -/

/-- A symbol without a fallback is nullable, and one with a fallback is not. -/
def Symbol.HasFallback (symbol : Symbol) (expr? : Option String) : Prop :=
  symbol.fallback = expr? ∧ symbol.nullable = expr?.isNone

namespace Shape

variable {t : Shape} {ns : String} {symbol : Symbol}

theorem isUnion_of_isStructure (h : t.isStructure = true) : t.isUnion = false := by
  unfold isStructure at h
  unfold isUnion
  cases hkind : t.kind <;> simp [hkind] at h ⊢

theorem hasFallback_finishSymbol {symbol : Symbol} {expr? : Option String}
    (h : symbol.HasFallback expr?) :
    (t.finishSymbol symbol).HasFallback (if t.traits.isBoxed then none else expr?) := by
  unfold finishSymbol
  split
  · exact ⟨rfl, rfl⟩
  · exact h

theorem literal_eq_ok {p : Primitive} (hkind : t.kind = .primitive p) {v : Json.Value}
    {id : ShapeId} {expr : String} (h : p.literal v id = .ok expr) : t.defaultExpr? v = some expr := by
  have hp : t.defaultExpr? v = p.literal? v := by
    unfold defaultExpr?
    rw [hkind]
  rw [hp]
  unfold Primitive.literal at h
  cases hliteral : p.literal? v with
  | none =>
    rw [hliteral] at h
    cases h
  | some expr' =>
    rw [hliteral] at h
    exact congrArg some (Except.ok.inj h)

theorem hasFallback_scalarSymbol {p : Primitive} (hkind : t.kind = .primitive p)
    (h : t.scalarSymbol p = .ok symbol) :
    symbol.HasFallback (t.traits.default?.bind t.defaultExpr?) := by
  unfold scalarSymbol at h
  cases hdefault : t.traits.default? with
  | none =>
    rw [hdefault] at h
    obtain rfl := Except.ok.inj h
    cases p <;> exact ⟨rfl, rfl⟩
  | some v =>
    rw [hdefault] at h
    obtain ⟨expr, hexpr, rfl⟩ := map_eq_ok.1 h
    rw [Option.bind_some, literal_eq_ok hkind hexpr]
    exact ⟨rfl, rfl⟩

theorem hasFallback_enumSymbol {values : List EnumValue} (hkind : t.kind = .enum values) :
    (t.enumSymbol ns).HasFallback (t.traits.default?.bind t.defaultExpr?) := by
  unfold enumSymbol defaultExpr?
  rw [hkind]
  cases t.traits.default? with
  | none => exact ⟨rfl, rfl⟩
  | some v => cases v <;> exact ⟨rfl, rfl⟩

theorem hasFallback_listSymbol {e : Member} (hkind : t.kind = .list e ∨ t.kind = .set e)
    (element : Symbol) :
    (t.listSymbol element).HasFallback (t.traits.default?.bind t.defaultExpr?) := by
  unfold listSymbol defaultExpr?
  rcases hkind with hkind | hkind <;> rw [hkind] <;> cases t.traits.default? <;> exact ⟨rfl, rfl⟩

theorem hasFallback_mapSymbol {k v : Member} (hkind : t.kind = .map k v) (key value : Symbol) :
    (t.mapSymbol key value).HasFallback (t.traits.default?.bind t.defaultExpr?) := by
  unfold mapSymbol defaultExpr?
  rw [hkind]
  cases t.traits.default? <;> exact ⟨rfl, rfl⟩

theorem hasFallback_recordSymbol (hrecord : t.isRecord = true) :
    (t.recordSymbol ns).HasFallback (t.traits.default?.bind t.defaultExpr?) := by
  have hnone : t.traits.default?.bind t.defaultExpr? = none := by
    rw [Option.bind_eq_none_iff]
    intro v _
    unfold defaultExpr?
    unfold isRecord isStructure isUnion at hrecord
    cases hkind : t.kind with
    | «structure» | union => rfl
    | _ =>
      rw [hkind] at hrecord
      cases hrecord
  rw [hnone]
  exact ⟨rfl, rfl⟩

/-- The symbol of a shape has the default of the shape as its fallback. -/
theorem hasFallback_symbolWith {symbolOf : ShapeId → Except GenerationError Symbol}
    (h : t.symbolWith ns symbolOf = .ok symbol) : symbol.HasFallback t.suppliedExpr? := by
  have hfinish : ∀ bare : Symbol, bare.HasFallback (t.traits.default?.bind t.defaultExpr?) →
      (t.finishSymbol bare).HasFallback t.suppliedExpr? :=
    fun bare hbare => hasFallback_finishSymbol hbare
  unfold symbolWith at h
  cases hkind : t.kind with
  | «structure» | union =>
    rw [hkind] at h
    obtain rfl := Except.ok.inj h
    exact hfinish _ (hasFallback_recordSymbol (by simp [isRecord, isStructure, isUnion, hkind]))
  | enum =>
    rw [hkind] at h
    obtain rfl := Except.ok.inj h
    exact hfinish _ (hasFallback_enumSymbol hkind)
  | primitive p =>
    rw [hkind] at h
    obtain ⟨bare, hbare, rfl⟩ := map_eq_ok.1 h
    exact hfinish _ (hasFallback_scalarSymbol hkind hbare)
  | list e =>
    rw [hkind] at h
    obtain ⟨element, -, rfl⟩ := map_eq_ok.1 h
    exact hfinish _ (hasFallback_listSymbol (.inl hkind) element)
  | set e =>
    rw [hkind] at h
    obtain ⟨element, -, rfl⟩ := map_eq_ok.1 h
    exact hfinish _ (hasFallback_listSymbol (.inr hkind) element)
  | map k v =>
    rw [hkind] at h
    obtain ⟨key, -, h⟩ := bind_eq_ok.1 h
    obtain ⟨value, -, rfl⟩ := map_eq_ok.1 h
    exact hfinish _ (hasFallback_mapSymbol hkind key value)

end Shape

namespace Model

variable {m : Model} {ns : String} {s : Shape} {e : Member} {symbol : Symbol}

theorem hasFallback_symbol {id : ShapeId} (h : m.symbol ns id = .ok symbol) :
    ∃ t, m.shape? id = some t ∧ symbol.HasFallback t.suppliedExpr? := by
  cases ht : m.shape? id with
  | none =>
    have hundefined : m.symbolFrom ns [] id = _ := symbolFrom_undefined List.not_mem_nil ht
    rw [Model.symbol, hundefined] at h
    cases h
  | some t =>
    rw [symbol_shape ht] at h
    exact ⟨t, rfl, Shape.hasFallback_symbolWith h⟩

/-- The expression for the default of a member is what its value is rendered as for the target, and
a value that the target has no expression for is refused. -/
theorem memberLiteral_eq {owner : ShapeId} {t : Shape} (ht : m.shape? e.target = some t)
    (hsymbol : m.symbol ns e.target = .ok symbol) (v : Json.Value) :
    m.memberLiteral owner e symbol v = match t.defaultExpr? v with
      | some expr => .ok expr
      | none => .error (.config (.unsupportedDefault v e.target)) := by
  rw [memberLiteral, ok_bind (resolveShape_eq_ok.2 ht)]
  unfold Shape.defaultExpr?
  cases hkind : t.kind with
  | primitive p => rfl
  | enum values =>
    have hname : symbol.name = t.generatedName := by
      rw [symbol_shape ht] at hsymbol
      rw [Shape.name_of_leaf (by simp [Shape.isCollection, hkind]) hsymbol]
      simp [Shape.leafType, hkind]
    rw [hname]
    cases v <;> rfl
  | list _ | set _ | map _ _ => rfl
  | «structure» _ | union _ => rfl

theorem memberLiteral_ok {owner : ShapeId} {t : Shape} (ht : m.shape? e.target = some t)
    (hsymbol : m.symbol ns e.target = .ok symbol) {v : Json.Value} {expr : String}
    (h : m.memberLiteral owner e symbol v = .ok expr) : t.defaultExpr? v = some expr := by
  rw [memberLiteral_eq ht hsymbol] at h
  split at h
  · rename_i expr' hexpr
    rw [hexpr, Except.ok.inj h]
  · cases h

/-! ## Members -/

/-- The symbol of a member with a default of its own. -/
theorem memberSymbol_of_fallback {target : Symbol} {v : Json.Value}
    (hs : m.shape? s.id = some s) (hunion : s.isUnion = false)
    (htarget : m.symbol ns e.target = .ok target) (hown : e.fallback? = some v) :
    m.memberSymbol ns s.id e = (m.memberLiteral s.id e target v).map fun expr =>
      if m.needsBox s.id e.name then (target.withFallback expr).boxed
      else target.withFallback expr := by
  rw [memberSymbol, ok_bind htarget, refineSymbol, ok_bind (resolveShape_eq_ok.2 hs)]
  simp only [hunion, hown]
  cases m.memberLiteral s.id e target v <;> rfl

/-- What the symbol of a member of a structure says of absent values: it has the default that is
supplied as its fallback, or it is nullable. It has no fallback and is not nullable only where the
member is required. -/
theorem memberSymbol_absence (hs : m.shape? s.id = some s) (hstructure : s.isStructure = true)
    (h : m.memberSymbol ns s.id e = .ok symbol) :
    (symbol.nullable = false ∧
      symbol.fallback = (m.suppliedExpr? e).map (boxedExpr (m.needsBox s.id e.name)) ∧
      (m.suppliedExpr? e = none → e.required = true ∧ e.fallback? = none)) ∨
    (symbol.nullable = true ∧ e.required = false) := by
  obtain ⟨target, htarget, h⟩ := bind_eq_ok.1 h
  obtain ⟨t, ht, hfallback, hnullable⟩ := hasFallback_symbol htarget
  have hunion : s.isUnion = false := Shape.isUnion_of_isStructure hstructure
  -- A box changes the fallback and leaves the nullability.
  have hboxed : ∀ refined : Symbol,
      (if m.needsBox s.id e.name then refined.boxed else refined) = symbol →
      symbol.nullable = refined.nullable ∧
        symbol.fallback = refined.fallback.map (boxedExpr (m.needsBox s.id e.name)) := by
    rintro refined rfl
    cases m.needsBox s.id e.name with
    | true => exact ⟨rfl, rfl⟩
    | false =>
      rw [if_neg Bool.false_ne_true]
      exact ⟨rfl, by cases refined.fallback <;> rfl⟩
  rw [refineSymbol, ok_bind (resolveShape_eq_ok.2 hs)] at h
  simp only [hunion] at h
  cases hown : e.fallback? with
  | some v =>
    rw [hown] at h
    obtain ⟨refined, hrefined, h⟩ := bind_eq_ok.1 h
    obtain ⟨expr, hexpr, rfl⟩ := map_eq_ok.1 hrefined
    have hsupplied : m.suppliedExpr? e = some expr := by
      simp only [suppliedExpr?, ht, hown]
      exact memberLiteral_ok ht htarget hexpr
    obtain ⟨hsame, hexpr⟩ := hboxed _ (Except.ok.inj h)
    refine .inl ⟨hsame, ?_, fun hnone => ?_⟩
    · rw [hexpr, hsupplied]
      rfl
    · rw [hsupplied] at hnone
      cases hnone
  | none =>
    rw [hown] at h
    obtain ⟨refined, hrefined, h⟩ := bind_eq_ok.1 h
    obtain rfl := Except.ok.inj hrefined
    have hsupplied : m.suppliedExpr? e = t.suppliedExpr? := by
      simp only [suppliedExpr?, ht, hown]
    obtain ⟨hsame, hexpr⟩ := hboxed _ (Except.ok.inj h)
    dsimp only at hsame hexpr
    cases hcase : e.isOptional && (target.nullable || e.traits.isBoxed) with
    | true =>
      rw [hcase] at hsame
      have hoptional : e.isOptional = true := (Bool.and_eq_true_iff.1 hcase).1
      exact .inr ⟨hsame, by simpa [Member.isOptional] using hoptional⟩
    | false =>
      rw [hcase] at hsame hexpr
      refine .inl ⟨hsame, ?_, fun hnone => ⟨?_, rfl⟩⟩
      · rw [hexpr, hsupplied, if_neg Bool.false_ne_true, hfallback]
      · rw [hsupplied] at hnone
        rw [hnullable, hnone] at hcase
        simpa [Member.isOptional] using hcase

/-- A member of a structure that has a symbol is decoded with one arm for a value that is absent or
null. It fails if the member is required and has no default; it is `None` if the type is an option;
it is the default that the model supplies; or it is the default of the type, and this exactly where
a required member is boxed in spite of a default and its target supplies none. -/
theorem absentArm_cases (hs : m.shape? s.id = some s) (hstructure : s.isStructure = true)
    (h : m.memberSymbol modelNamespace s.id e = .ok symbol) :
    (∀ stmt, m.decodeMember s e = .ok stmt → ∃ arm,
      stmt = .bindMatch (.name ((CodecPath.ofMember e.name).ofRole "decoded"))
        (.method (.source "container") "get" [s.keyExpr e]) [absentArm s e symbol, arm]) ∧
    ((e.required = true ∧ e.traits.default? = none ∧ ¬ symbol.IsOption ∧
        absentArm s e symbol = missingArm s e) ∨
      (e.required = false ∧ symbol.IsOption ∧ absentArm s e symbol = absentValueArm "None") ∨
      (¬ (e.required = true ∧ e.traits.default? = none) ∧ ¬ symbol.IsOption ∧
        ∃ expr, m.suppliedExpr? e = some expr ∧
          absentArm s e symbol = absentValueArm (boxedExpr (m.needsBox s.id e.name) expr)) ∨
      (e.required = true ∧ e.traits.isBoxed = true ∧ e.traits.default?.isSome = true ∧
        m.suppliedExpr? e = none ∧ ¬ symbol.IsOption ∧
        absentArm s e symbol = absentValueArm "Default::default()")) := by
  constructor
  · intro stmt hstmt
    rw [decodeMember, ok_bind h] at hstmt
    obtain ⟨inner, -, hstmt⟩ := bind_eq_ok.1 hstmt
    exact ⟨_, (Except.ok.inj hstmt).symm⟩
  have hfails : e.required = true → e.traits.default? = none →
      absentArm s e symbol = missingArm s e := by
    intro hrequired hdefault
    rw [absentArm, hrequired, hdefault]
    rfl
  have hgives : ¬ (e.required = true ∧ e.traits.default? = none) →
      absentArm s e symbol = absentValueArm symbol.absentValue := by
    intro hnot
    have hcondition : ¬ (e.required && e.traits.default?.isNone) = true := by
      simpa [Option.isNone_iff_eq_none] using hnot
    rw [absentArm, if_neg hcondition]
    rfl
  rw [symbol.isOption_iff]
  rcases memberSymbol_absence hs hstructure h with
    ⟨hnullable, hfallback, hneither⟩ | ⟨hnullable, he⟩
  · have hoption : ¬ symbol.nullable = true := by rw [hnullable]; exact Bool.false_ne_true
    have hvalue : symbol.absentValue = symbol.fallback.getD "Default::default()" := by
      rw [Symbol.absentValue, if_neg hoption]
    by_cases hlacks : e.required = true ∧ e.traits.default? = none
    · exact .inl ⟨hlacks.1, hlacks.2, hoption, hfails hlacks.1 hlacks.2⟩
    have harm := hgives hlacks
    cases hsupplied : m.suppliedExpr? e with
    | some expr =>
      rw [hvalue, hfallback, hsupplied] at harm
      exact .inr (.inr (.inl ⟨hlacks, hoption, expr, rfl, harm⟩))
    | none =>
      rw [hvalue, hfallback, hsupplied] at harm
      -- The member has a default of its own that its symbol does not use, as it is boxed.
      obtain ⟨hrequired, hown⟩ := hneither hsupplied
      have hdefault : e.traits.default? ≠ none := fun hnone => hlacks ⟨hrequired, hnone⟩
      have hboxed : e.traits.isBoxed = true := by
        by_contra hbare
        rw [Member.fallback?, if_neg hbare] at hown
        exact hdefault hown
      exact .inr (.inr (.inr ⟨hrequired, hboxed, Option.isSome_iff_ne_none.2 hdefault, rfl, hoption,
        harm⟩))
  · have hlacks : ¬ (e.required = true ∧ e.traits.default? = none) := by
      rw [he]
      exact fun hboth => Bool.false_ne_true hboth.1
    have harm := hgives hlacks
    rw [Symbol.absentValue, if_pos hnullable] at harm
    exact .inr (.inl ⟨he, hnullable, harm⟩)

theorem needsBox_of_leaves (hs : m.shape? s.id = some s)
    (hleaves : ∀ e ∈ s.members, m.isRecord e.target = false) (name : String) :
    m.needsBox s.id name = false := by
  rw [needsBox, hs, Option.any_some, List.any_eq_false]
  intro e he
  rw [hleaves e he]
  simp

/-- The symbol of a member of a structure without records, where it goes by its target. -/
theorem memberSymbol_of_leaves {target : Symbol} (hs : m.shape? s.id = some s)
    (hunion : s.isUnion = false) (hleaves : ∀ e ∈ s.members, m.isRecord e.target = false)
    (htarget : m.symbol ns e.target = .ok target) (hown : e.fallback? = none) :
    let nullable := e.isOptional && (target.nullable || e.traits.isBoxed)
    m.memberSymbol ns s.id e =
      .ok { target with nullable, fallback := if nullable then none else target.fallback } := by
  have hbox := needsBox_of_leaves hs hleaves e.name
  rw [memberSymbol, ok_bind htarget, refineSymbol, ok_bind (resolveShape_eq_ok.2 hs)]
  simp only [hunion, hown, hbox]
  rfl

/-- A price that is absent is the one that the shape of prices supplies. -/
theorem absentArm_cases_price :
    let price : Shape :=
      ⟨⟨"store", "Price"⟩, .primitive .integer, [.default (.number (.integer 5))]⟩
    let member : Member := ⟨"price", price.id, false, []⟩
    let order : Shape := ⟨⟨"store", "Order"⟩, .structure [member], []⟩
    let m : Model := ⟨⟨[order, price], by decide⟩, .empty, .empty⟩
    m.shape? order.id = some order ∧ order.isStructure = true ∧
      ∃ symbol, m.memberSymbol modelNamespace order.id member = .ok symbol ∧
        absentArm order member symbol = absentValueArm "5" := by
  intro price member order m
  have hprice : m.shape? price.id = some price := by decide
  have horder : m.shape? order.id = some order := by decide
  have htarget : m.symbol modelNamespace price.id =
      .ok (Primitive.integer.symbol.withFallback "5") := (symbol_shape hprice).trans rfl
  have hsymbol := memberSymbol_of_leaves (e := member) horder rfl (by decide) htarget rfl
  have hsupplied : m.suppliedExpr? member = some "5" := by
    rw [suppliedExpr?, hprice]
    rfl
  obtain ⟨-, hcases⟩ := absentArm_cases horder rfl hsymbol
  rcases hcases with ⟨hrequired, -⟩ | ⟨-, hoption, -⟩ | ⟨-, -, expr, hexpr, harm⟩ | ⟨hrequired, -⟩
  · cases hrequired
  · exact absurd ((Symbol.isOption_iff _).1 hoption) (by decide)
  · obtain rfl := Option.some.inj (hsupplied.symm.trans hexpr)
    rw [needsBox_of_leaves horder (by decide)] at harm
    exact ⟨horder, rfl, _, hsymbol, harm⟩
  · cases hrequired

/-- A required count that is boxed in spite of its default of seven is neither an error nor seven
where it is absent. -/
theorem absentArm_typeDefault_count :
    let integer : Shape := .ofPrimitive .integer
    let member : Member := ⟨"count", integer.id, true, [.boxed, .default (.number (.integer 7))]⟩
    let item : Shape := ⟨⟨"store", "Item"⟩, .structure [member], []⟩
    let m : Model := ⟨⟨[integer, item], by decide⟩, .empty, .empty⟩
    ∃ symbol, m.memberSymbol modelNamespace item.id member = .ok symbol ∧ ¬ symbol.IsOption ∧
      m.suppliedExpr? member = none ∧
      absentArm item member symbol = absentValueArm "Default::default()" := by
  intro integer member item m
  have hinteger : m.shape? integer.id = some integer := by decide
  have hitem : m.shape? item.id = some item := by decide
  have htarget : m.symbol modelNamespace integer.id = .ok Primitive.integer.symbol :=
    (symbol_shape hinteger).trans rfl
  have hsymbol := memberSymbol_of_leaves (e := member) hitem rfl (by decide) htarget rfl
  have hoption : ¬ Symbol.IsOption ({ Primitive.integer.symbol with nullable := false } : Symbol) :=
    fun h => absurd ((Symbol.isOption_iff _).1 h) (by decide)
  refine ⟨_, hsymbol, hoption, ?_, rfl⟩
  rw [suppliedExpr?, hinteger]
  rfl

end Model

end ClientGen
