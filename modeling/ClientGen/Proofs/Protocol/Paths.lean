import ClientGen.Proofs.Graph.Soundness
import ClientGen.Protocol.Request
import Mathlib.Logic.Basic

/-!
# What the path of a request is made of

A label that is bound has a member of the input: the first that has its name and is to go into the
path. Its text is bound to a local of the label, in one of two forms. The labels of a template are
bound one after the other, and the path reads their locals.
-/

namespace ClientGen

namespace Call

variable {m : Model} {c : Call} {input : Shape} {e : Member} {segments : List UriSegment}
  {stmts : List Stmt}

def labelLocal (name : String) : String := (CodecPath.ofMember name).ofRole "label"

def labelNames (segments : List UriSegment) : List String :=
  segments.filterMap fun
    | .label name _ => some (String.ofList name)
    | .literal _ => none

/-! ## Texts -/

/-- The text of a value is what a timestamp or a blob is on the wire, or the value itself. -/
theorem scalarText_cases {target : ShapeId} {value : Expr} {byRef : Bool} {t : ScalarText}
    (h : scalarText m target value byRef = .ok t) : ∃ s, m.shape? target = some s ∧
      ((s.kind = .primitive .timestamp ∧ t = ⟨[.need (.item "crate" "wire")],
          (Wire.call "encode_timestamp" (if byRef then value else value.borrow)).toOwned⟩) ∨
        (s.kind = .primitive .blob ∧ t = ⟨[.need (.item "crate" "wire")],
          (Expr.method (.method (Wire.call "encode_blob" (if byRef then value else value.borrow))
            "as_str" []) "unwrap_or_default" []).toOwned⟩) ∨
        t = ⟨[], value.toOwned⟩) := by
  obtain ⟨s, hs, h⟩ := bind_eq_ok.1 h
  refine ⟨s, Model.resolveShape_eq_ok.1 hs, ?_⟩
  dsimp only at h
  split at h
  · rename_i hkind
    exact .inl ⟨hkind, (Except.ok.inj h).symm⟩
  · rename_i hkind
    exact .inr (.inl ⟨hkind, (Except.ok.inj h).symm⟩)
  · exact .inr (.inr (Except.ok.inj h).symm)
  · exact .inr (.inr (Except.ok.inj h).symm)
  · cases h

/-! ## The member of a label -/

/-- The member is the first of the input that has the name and is to go into the path. -/
def IsFirstLabelled (input : Shape) (name : String) (e : Member) : Prop :=
  e.name = name ∧ e.traits.isHttpLabel = true ∧ ∃ before after,
    input.members = before ++ e :: after ∧
      ∀ b ∈ before, b.name = name → b.traits.isHttpLabel = false

theorem IsFirstLabelled.mem {name : String} (h : IsFirstLabelled input name e) :
    e ∈ input.members := by
  obtain ⟨-, -, before, after, hmembers, -⟩ := h
  simp [hmembers]

theorem labelMember?_eq_some {name : String} : c.labelMember? name = some (input, e) ↔
    c.input = some input ∧ IsFirstLabelled input name e := by
  have hfind : ∀ s : Shape,
      s.members.find? (fun e => e.name == name && e.traits.isHttpLabel) = some e ↔
        IsFirstLabelled s name e := by
    intro s
    simp [List.find?_eq_some_iff_append, IsFirstLabelled, exists_and_right, and_assoc,
      imp_iff_not_or]
  constructor
  · intro h
    obtain ⟨input', hinput, h⟩ := Option.bind_eq_some_iff.1 h
    obtain ⟨e', he, h⟩ := Option.bind_eq_some_iff.1 h
    obtain ⟨rfl, rfl⟩ := Prod.mk.inj (Option.some.inj h)
    exact ⟨hinput, (hfind _).1 he⟩
  · rintro ⟨hinput, he⟩
    simp [labelMember?, hinput, (hfind _).2 he]

/-! ## Labels -/

/-- What a request without the member of a label ends with. -/
def missingLabel (e : Member) : Expr :=
  .call "return Err" [.call "ClientError::InvalidRequest"
    [(Expr.literal s!"missing URI label '{e.name}'").toOwned]]

/-- A label is bound by a match on its member if the member can be absent, and by the value of the
member if not. -/
theorem bindLabel_cases {name binding : String} {greedy : Bool}
    (h : bindLabel m c name greedy = .ok (stmts, binding)) :
    binding = labelLocal name ∧ ∃ input e symbol t, c.input = some input ∧
      IsFirstLabelled input name e ∧ m.memberSymbol modelNamespace input.id e = .ok symbol ∧
      ((symbol.nullable = true ∧ scalarText m e.target (.source "value") true = .ok t ∧
          stmts = t.needs ++ [.bindMatch (.name binding) (place e).borrow
            [.value (.some "value") (encodeLabel t.text greedy),
              .value (.source "None") (missingLabel e)]]) ∨
        (symbol.nullable = false ∧ scalarText m e.target (place e) false = .ok t ∧
          stmts = t.needs ++ [.bind binding (encodeLabel t.text greedy)])) := by
  unfold bindLabel at h
  cases hmember : c.labelMember? name with
  | none =>
    rw [hmember] at h
    cases h
  | some found =>
    obtain ⟨input, e⟩ := found
    rw [hmember] at h
    obtain ⟨hinput, he⟩ := labelMember?_eq_some.1 hmember
    obtain ⟨symbol, hsymbol, h⟩ := bind_eq_ok.1 h
    have hlocal : ofRole e "label" = labelLocal name := by
      simp only [ofRole, labelLocal, CodecPath.ofRole, CodecPath.ofMember, he.1]
    cases hnullable : symbol.nullable with
    | true =>
      rw [hnullable] at h
      obtain ⟨t, ht, h⟩ := bind_eq_ok.1 h
      obtain ⟨rfl, rfl⟩ := Prod.mk.inj (Except.ok.inj h)
      exact ⟨hlocal, input, e, symbol, t, hinput, he, hsymbol, .inl ⟨hnullable, ht, rfl⟩⟩
    | false =>
      rw [hnullable] at h
      obtain ⟨t, ht, h⟩ := bind_eq_ok.1 h
      obtain ⟨rfl, rfl⟩ := Prod.mk.inj (Except.ok.inj h)
      exact ⟨hlocal, input, e, symbol, t, hinput, he, hsymbol, .inr ⟨hnullable, ht, rfl⟩⟩

/-- What holds of no labels, and of one more label if it holds of those behind it, holds of the
labels of every template that are bound. -/
theorem bindLabels_induction {motive : List String → List Stmt → List String → Prop}
    (nil : motive [] [] [])
    (cons : ∀ {name greedy own binding names others bindings},
      bindLabel m c name greedy = .ok (own, binding) → motive names others bindings →
        motive (name :: names) (own ++ others) (binding :: bindings))
    {bindings : List String} (h : bindLabels m c segments = .ok (stmts, bindings)) :
    motive (labelNames segments) stmts bindings := by
  induction segments generalizing stmts bindings with
  | nil =>
    obtain ⟨rfl, rfl⟩ := Prod.mk.inj (Except.ok.inj h)
    exact nil
  | cons segment segments ih =>
    cases segment with
    | literal text => exact ih h
    | label name greedy =>
      obtain ⟨⟨own, binding⟩, hown, h⟩ := bind_eq_ok.1 h
      obtain ⟨⟨others, bindings'⟩, hothers, h⟩ := bind_eq_ok.1 h
      obtain ⟨rfl, rfl⟩ := Prod.mk.inj (Except.ok.inj h)
      exact cons hown (ih hothers)

theorem bindings_of_bindLabels {bindings : List String}
    (h : bindLabels m c segments = .ok (stmts, bindings)) :
    bindings = (labelNames segments).map labelLocal := by
  refine bindLabels_induction (motive := fun names _ bindings => bindings = names.map labelLocal)
    rfl (fun hown hothers => ?_) h
  rw [(bindLabel_cases hown).1, hothers, List.map_cons]

theorem exists_labelMember {bindings : List String}
    (h : bindLabels m c segments = .ok (stmts, bindings)) (hinput : c.input = some input) :
    ∀ name ∈ labelNames segments, ∃ e ∈ input.members, e.name = name ∧
      e.traits.isHttpLabel = true := by
  refine bindLabels_induction (motive := fun names _ _ => ∀ name ∈ names, ∃ e ∈ input.members,
    e.name = name ∧ e.traits.isHttpLabel = true) (List.forall_mem_nil _) (fun hown hothers => ?_) h
  obtain ⟨-, input', e, -, -, hinput', he, -⟩ := bindLabel_cases hown
  obtain rfl := Option.some.inj (hinput.symm.trans hinput')
  exact List.forall_mem_cons.2 ⟨⟨e, he.mem, he.1, he.2.1⟩, hothers⟩

/-! ## Paths -/

/-- Every member of the input that is to go into the path has a label. -/
def IsUsed (c : Call) (segments : List UriSegment) : Prop :=
  ∀ input, c.input = some input → ∀ e ∈ input.members, e.traits.isHttpLabel = true →
    e.name ∈ labelNames segments

theorem hasLabel_iff {name : String} :
    hasLabel segments name = true ↔ name ∈ labelNames segments := by
  rw [hasLabel, List.any_eq_true, labelNames, List.mem_filterMap]
  refine exists_congr fun segment => and_congr_right fun _ => ?_
  cases segment <;> simp

theorem unusedLabel?_eq_none : c.unusedLabel? segments = none ↔ c.IsUsed segments := by
  refine Option.bind_eq_none_iff.trans (forall₂_congr fun input _ => ?_)
  have hpair : ∀ found : Option Member,
      (found >>= fun e => pure (input, e)) = none ↔ found = none := by
    intro found
    cases found <;> simp
  rw [hpair, List.find?_eq_none]
  simp [hasLabel_iff]

/-- The expression for a path is the text of a template without labels, or the format template of
one with labels, with their locals as the arguments. No member is left without a label. -/
theorem path_cases {path : Expr} (h : c.path m segments = .ok (stmts, path)) :
    c.unusedLabel? segments = none ∧
    ∃ labels, bindLabels m c segments = .ok (labels, (labelNames segments).map labelLocal) ∧
      ((labelNames segments = [] ∧ stmts = labels ∧
          path = .literal (String.ofList (UriSegment.literalText segments))) ∨
        (labelNames segments ≠ [] ∧
          stmts = labels ++ [.need (.item "crate::runtime" "percent_encode")] ∧
          path = .call "format!" (.literal (String.ofList (UriSegment.formatTemplate segments)) ::
            (labelNames segments).map fun name => .source (labelLocal name)))) := by
  obtain ⟨⟨labels, bindings⟩, hbound, h⟩ := bind_eq_ok.1 h
  obtain rfl := bindings_of_bindLabels hbound
  dsimp only at h
  split at h
  · cases h
  · rename_i hused
    refine ⟨hused, labels, hbound, ?_⟩
    split at h
    · rename_i hempty
      obtain ⟨rfl, rfl⟩ := Prod.mk.inj (Except.ok.inj h)
      exact .inl ⟨by simpa using hempty, rfl, rfl⟩
    · rename_i hsome
      obtain ⟨rfl, rfl⟩ := Prod.mk.inj (Except.ok.inj h)
      refine .inr ⟨by simpa using hsome, rfl, ?_⟩
      rw [List.map_map]
      rfl

end Call

end ClientGen
