import ClientGen.Proofs.Protocol.Destinations

/-!
# Which templates fit the members of an input

The labels of a template and the members that are to go into the path are matched in two passes:
each label looks for a member with its name, and each member for a label. A request has a path
exactly if both go well and every member that is found has a text. Where the members have symbols,
nothing but the bindings can be wrong.
-/

namespace ClientGen

/-- Whether the values of the shape are single ones, which can be written as a text. -/
def Shape.isSingle (s : Shape) : Bool :=
  match s.kind with
  | .primitive _ | .enum _ => true
  | _ => false

/-- The target is a scalar type or an enum. -/
def Model.IsSingle (m : Model) (target : ShapeId) : Prop :=
  ∃ s, m.shape? target = some s ∧ s.isSingle = true

theorem Model.shape?_of_memberSymbol {m : Model} {ns : String} {owner : ShapeId} {e : Member}
    {symbol : Symbol} (h : m.memberSymbol ns owner e = .ok symbol) :
    ∃ s, m.shape? e.target = some s := by
  obtain ⟨target, htarget, -⟩ := bind_eq_ok.1 h
  obtain ⟨s, hs, -⟩ := hasFallback_symbol htarget
  exact ⟨s, hs⟩

/-- The computation goes well if the condition holds, and finds an error of the configuration
otherwise. -/
structure GoesWellIff {α : Type} (P : Prop) (r : Except GenerationError α) : Prop where
  ok : P → ∃ a, r = .ok a
  error : ¬ P → ∃ fault, r = .error (.config fault)

namespace GoesWellIff

variable {α β : Type} {P Q : Prop} {r : Except GenerationError α}

theorem of_ok (a : α) (h : P) : GoesWellIff P (.ok a : Except GenerationError α) :=
  ⟨fun _ => ⟨a, rfl⟩, fun hP => absurd h hP⟩

theorem of_error (fault : ConfigFault) (h : ¬ P) :
    GoesWellIff P (.error (.config fault) : Except GenerationError α) :=
  ⟨fun hP => absurd hP h, fun _ => ⟨fault, rfl⟩⟩

theorem congr (hr : GoesWellIff P r) (h : P ↔ Q) : GoesWellIff Q r := by
  rwa [← propext h]

theorem bind {f : α → Except GenerationError β} (hr : GoesWellIff P r)
    (hf : ∀ a, r = .ok a → GoesWellIff Q (f a)) : GoesWellIff (P ∧ Q) (r >>= f) := by
  cases r with
  | error e =>
    have hP : ¬ P := by
      intro hP
      obtain ⟨a, ha⟩ := hr.ok hP
      cases ha
    obtain ⟨fault, hfault⟩ := hr.error hP
    obtain rfl := Except.error.inj hfault
    exact .of_error fault fun h => hP h.1
  | ok a =>
    have hP : P := by
      by_contra hP
      obtain ⟨fault, hfault⟩ := hr.error hP
      cases hfault
    exact (hf a rfl).congr ⟨fun hQ => ⟨hP, hQ⟩, And.right⟩

theorem exists_ok_iff (hr : GoesWellIff P r) : (∃ a, r = .ok a) ↔ P := by
  refine ⟨fun ⟨a, ha⟩ => ?_, hr.ok⟩
  by_contra hP
  obtain ⟨fault, hfault⟩ := hr.error hP
  rw [ha] at hfault
  cases hfault

end GoesWellIff

namespace Call

variable {m : Model} {c : Call} {input : Shape} {e : Member} {name : String} {greedy : Bool}
  {segments : List UriSegment}

theorem scalarText_goesWellIff {target : ShapeId} {s : Shape} (hs : m.shape? target = some s)
    (value : Expr) (byRef : Bool) :
    GoesWellIff (m.IsSingle target) (scalarText m target value byRef) := by
  have hsingle : m.IsSingle target ↔ s.isSingle = true := by
    constructor
    · rintro ⟨s', hs', hsingle⟩
      obtain rfl := Option.some.inj (hs.symm.trans hs')
      exact hsingle
    · exact fun hsingle => ⟨s, hs, hsingle⟩
  refine GoesWellIff.congr ?_ hsingle.symm
  unfold scalarText Shape.isSingle
  rw [ok_bind (Model.resolveShape_eq_ok.2 hs)]
  cases hkind : s.kind with
  | primitive p => cases p <;> exact .of_ok _ rfl
  | enum values => exact .of_ok _ rfl
  | _ => exact .of_error _ Bool.false_ne_true

/-! ## The members of labels -/

/-- Where no two members have the same name, the first one with a name is the only one. -/
theorem isFirstLabelled_iff (hnames : (input.members.map Member.name).Nodup) :
    IsFirstLabelled input name e ↔
      e ∈ input.members ∧ e.name = name ∧ e.traits.isHttpLabel = true := by
  refine ⟨fun h => ⟨h.mem, h.1, h.2.1⟩, ?_⟩
  rintro ⟨he, rfl, hlabel⟩
  obtain ⟨before, after, hmembers⟩ := List.append_of_mem he
  refine ⟨rfl, hlabel, before, after, hmembers, fun b hb hsame => ?_⟩
  rw [hmembers, List.map_append, List.nodup_append] at hnames
  exact absurd hsame (hnames.2.2 _ (List.mem_map_of_mem hb) _ List.mem_cons_self)

/-- The label has a member, and the values of the member are single ones. -/
def IsBound (m : Model) (c : Call) (name : String) : Prop :=
  ∃ input e, c.input = some input ∧ IsFirstLabelled input name e ∧ m.IsSingle e.target

/-- Every member of the input has a symbol. -/
def HasSymbols (m : Model) (c : Call) : Prop :=
  ∀ input, c.input = some input → ∀ e ∈ input.members,
    ∃ symbol, m.memberSymbol modelNamespace input.id e = .ok symbol

/-- If the members have symbols, a label is bound exactly if the first labelled member of its name
has single values. -/
theorem bindLabel_goesWellIff (hsymbols : c.HasSymbols m) :
    GoesWellIff (c.IsBound m name) (bindLabel m c name greedy) := by
  unfold bindLabel
  cases hmember : c.labelMember? name with
  | none =>
    refine .of_error _ ?_
    rintro ⟨input, e, hinput, he, -⟩
    rw [labelMember?_eq_some.2 ⟨hinput, he⟩] at hmember
    cases hmember
  | some found =>
    obtain ⟨input, e⟩ := found
    obtain ⟨hinput, he⟩ := labelMember?_eq_some.1 hmember
    obtain ⟨symbol, hsymbol⟩ := hsymbols input hinput e he.mem
    obtain ⟨s, hs⟩ := Model.shape?_of_memberSymbol hsymbol
    have hbound : m.IsSingle e.target ∧ True ↔ c.IsBound m name := by
      rw [and_true]
      refine ⟨fun hsingle => ⟨input, e, hinput, he, hsingle⟩, ?_⟩
      rintro ⟨input', e', hinput', he', hsingle⟩
      have hfound := labelMember?_eq_some.2 ⟨hinput', he'⟩
      obtain ⟨-, rfl⟩ := Prod.mk.inj (Option.some.inj (hmember.symm.trans hfound))
      exact hsingle
    dsimp only
    rw [ok_bind hsymbol]
    refine GoesWellIff.congr ?_ hbound
    split <;> exact (scalarText_goesWellIff hs _ _).bind fun t _ => .of_ok _ trivial

/-- The labels one after the other, by induction over them. -/
theorem bindLabels_goesWellIff (hsymbols : c.HasSymbols m) :
    GoesWellIff (∀ name ∈ labelNames segments, c.IsBound m name) (bindLabels m c segments) := by
  induction segments with
  | nil => exact .of_ok _ fun name hname => nomatch hname
  | cons segment segments ih =>
    cases segment with
    | literal text => exact ih
    | label name greedy =>
      have hnames : (c.IsBound m (String.ofList name) ∧
          (∀ other ∈ labelNames segments, c.IsBound m other) ∧ True) ↔
            ∀ other ∈ labelNames (.label name greedy :: segments), c.IsBound m other := by
        rw [and_true]
        exact List.forall_mem_cons.symm
      refine GoesWellIff.congr ?_ hnames
      exact (bindLabel_goesWellIff hsymbols).bind fun own _ => ih.bind fun others _ =>
        .of_ok _ trivial

theorem path_goesWellIff (hsymbols : c.HasSymbols m) :
    GoesWellIff ((∀ name ∈ labelNames segments, c.IsBound m name) ∧ c.IsUsed segments)
      (c.path m segments) := by
  refine (bindLabels_goesWellIff hsymbols).bind fun bound _ => ?_
  dsimp only
  rw [← unusedLabel?_eq_none]
  cases c.unusedLabel? segments with
  | some found => exact .of_error _ (by simp)
  | none =>
    dsimp only
    split <;> exact .of_ok _ rfl

/-! ## Inputs without records -/

theorem hasSymbols_of_leaves (hinput : c.input = some input) (hs : m.shape? input.id = some input)
    (hunion : input.isUnion = false)
    (hleaves : ∀ e ∈ input.members, m.isRecord e.target = false ∧ e.fallback? = none ∧
      ∃ symbol, m.symbol modelNamespace e.target = .ok symbol) : c.HasSymbols m := by
  intro input' hinput' e he
  obtain rfl := Option.some.inj (hinput.symm.trans hinput')
  obtain ⟨-, hown, symbol, hsymbol⟩ := hleaves e he
  exact ⟨_, Model.memberSymbol_of_leaves hs hunion (fun e he => (hleaves e he).1) hsymbol hown⟩

/-- A required text that goes into the path. -/
def labelMember (name : String) : Member := ⟨name, .prelude "String", true, [.httpLabel]⟩

def keyInput : Shape := ⟨⟨"store", "Item"⟩, .structure [labelMember "key"], []⟩

def keyCall : Call := ⟨putOperation keyInput, some keyInput⟩

def keyModel : Model := ⟨⟨[.ofPrimitive .string, keyInput], by decide⟩, .empty, .empty⟩

theorem hasSymbols_keyCall : keyCall.HasSymbols keyModel := by
  have htext : keyModel.shape? (.prelude "String") = some (.ofPrimitive .string) := by decide
  refine hasSymbols_of_leaves rfl (by decide) rfl fun e he => ?_
  obtain rfl := List.mem_singleton.1 he
  exact ⟨by decide, rfl, _, (Model.symbol_shape htext).trans rfl⟩

theorem labels_match_keyCall (h : labelNames segments = ["key"]) :
    (∀ name ∈ labelNames segments, keyCall.IsBound keyModel name) ∧ keyCall.IsUsed segments := by
  rw [IsUsed, h]
  constructor
  · intro name hname
    obtain rfl := List.mem_singleton.1 hname
    exact ⟨keyInput, labelMember "key", rfl, ⟨rfl, rfl, [], [], rfl, nofun⟩, .ofPrimitive .string,
      by decide, rfl⟩
  · intro input hs e he _
    obtain rfl := Option.some.inj hs
    obtain rfl := List.mem_singleton.1 he
    exact List.mem_cons_self

/-! ## Paths -/

/-- There is a path exactly if each label has a member, the first of those with its name that are to
go into the path, and the values of this member are single ones, and if each member that is to go
into the path has a label. If not, the error is one of the configuration. Where the members of the
input have different names, any member with the name of a label and for the path is the member of
the label. -/
theorem path_ok_iff_labels_match (hsymbols : c.HasSymbols m) (segments : List UriSegment) :
    ((∃ rendered, c.path m segments = .ok rendered) ↔
      (∀ name ∈ labelNames segments, c.IsBound m name) ∧ c.IsUsed segments) ∧
    ((∀ rendered, c.path m segments ≠ .ok rendered) →
      ∃ fault, c.path m segments = .error (.config fault)) ∧
    ∀ input, c.input = some input → (input.members.map Member.name).Nodup →
      ∀ name, c.IsBound m name ↔ ∃ e ∈ input.members, e.name = name ∧
        e.traits.isHttpLabel = true ∧ m.IsSingle e.target := by
  have hpath : GoesWellIff _ (c.path m segments) := path_goesWellIff hsymbols
  refine ⟨hpath.exists_ok_iff, fun hnone => hpath.error fun hmatch => ?_, ?_⟩
  · obtain ⟨rendered, hrendered⟩ := hpath.ok hmatch
    exact hnone rendered hrendered
  · intro input hinput hnames name
    constructor
    · rintro ⟨input', e, hinput', he, hsingle⟩
      obtain rfl := Option.some.inj (hinput.symm.trans hinput')
      obtain ⟨he, hname, hlabel⟩ := (isFirstLabelled_iff hnames).1 he
      exact ⟨e, he, hname, hlabel, hsingle⟩
    · rintro ⟨e, he, hname, hlabel, hsingle⟩
      exact ⟨input, e, hinput, (isFirstLabelled_iff hnames).2 ⟨he, hname, hlabel⟩, hsingle⟩

/-- The key alone is a path, and a path without the key is an error. No other label is bound. -/
theorem path_ok_iff_labels_match_key :
    keyCall.HasSymbols keyModel ∧
      (∃ rendered, keyCall.path keyModel [.label "key".toList false] = .ok rendered) ∧
      (∃ fault, keyCall.path keyModel [.literal "/items".toList] = .error (.config fault)) ∧
      (keyInput.members.map Member.name).Nodup ∧
      ∀ name, keyCall.IsBound keyModel name ↔ name = "key" := by
  obtain ⟨hkey, -, hbound⟩ :=
    path_ok_iff_labels_match hasSymbols_keyCall [.label "key".toList false]
  obtain ⟨hitems, hfault, -⟩ :=
    path_ok_iff_labels_match hasSymbols_keyCall [.literal "/items".toList]
  have hnames : (keyInput.members.map Member.name).Nodup := List.nodup_singleton _
  refine ⟨hasSymbols_keyCall, hkey.2 (labels_match_keyCall rfl), hfault fun rendered h => ?_, hnames,
    fun name => ?_⟩
  · cases (hitems.1 ⟨rendered, h⟩).2 keyInput rfl (labelMember "key") List.mem_cons_self rfl
  · rw [hbound keyInput rfl hnames]
    constructor
    · rintro ⟨e, he, rfl, -⟩
      obtain rfl := List.mem_singleton.1 he
      rfl
    · rintro rfl
      exact ⟨labelMember "key", List.mem_cons_self, rfl, rfl, .ofPrimitive .string, by decide, rfl⟩

/-- Where two members have the name of a label, and both are to go into the path, the second one is
not looked at: the first one has to have single values. -/
theorem not_path_ok_homonyms :
    let keys : Shape := ⟨⟨"store", "Keys"⟩, .list ⟨"member", .prelude "String", true, []⟩, []⟩
    let list : Member := ⟨"key", keys.id, true, [.httpLabel]⟩
    let input : Shape := ⟨⟨"store", "Item"⟩, .structure [list, labelMember "key"], []⟩
    let c : Call := ⟨putOperation input, some input⟩
    let m : Model := ⟨⟨[.ofPrimitive .string, input, keys], by decide⟩, .empty, .empty⟩
    let segments : List UriSegment := [.label "key".toList false]
    c.HasSymbols m ∧
      (∀ name ∈ labelNames segments, ∃ e ∈ input.members, e.name = name ∧
        e.traits.isHttpLabel = true ∧ m.IsSingle e.target) ∧
      c.IsUsed segments ∧ ∃ fault, c.path m segments = .error (.config fault) := by
  intro keys list input c m segments
  have htext : m.shape? (.prelude "String") = some (.ofPrimitive .string) := by decide
  have hkeys : m.shape? keys.id = some keys := by decide
  have hsymbols : c.HasSymbols m := by
    refine hasSymbols_of_leaves rfl (by decide) rfl fun e he => ?_
    obtain rfl | rfl := List.mem_pair.1 he
    · have helement : m.symbolFrom modelNamespace [keys.id] (.prelude "String") =
          .ok Primitive.string.symbol := (Model.symbolFrom_shape (by decide) htext).trans rfl
      have hkeysSymbol : m.symbol modelNamespace keys.id =
          .ok (keys.finishSymbol (keys.listSymbol Primitive.string.symbol)) :=
        (Model.symbol_shape hkeys).trans (congrArg (Except.map _) helement)
      exact ⟨by decide, rfl, _, hkeysSymbol⟩
    · exact ⟨by decide, rfl, _, (Model.symbol_shape htext).trans rfl⟩
  refine ⟨hsymbols, fun name hname => ?_, fun input' hinput e he _ => ?_, ?_⟩
  · obtain rfl := List.mem_singleton.1 hname
    exact ⟨labelMember "key", List.mem_cons_of_mem _ List.mem_cons_self, rfl, rfl,
      .ofPrimitive .string, htext, rfl⟩
  · obtain rfl := Option.some.inj hinput
    obtain rfl | rfl := List.mem_pair.1 he <;> exact List.mem_cons_self
  · refine (path_goesWellIff hsymbols).error fun hmatch => ?_
    obtain ⟨input', e, hinput, he, s, hs, hsingle⟩ := hmatch.1 "key" List.mem_cons_self
    obtain rfl := Option.some.inj hinput
    have hfirst : IsFirstLabelled input "key" list :=
      ⟨rfl, rfl, [], [labelMember "key"], rfl, nofun⟩
    have hfound := labelMember?_eq_some.2 ⟨hinput, he⟩
    rw [labelMember?_eq_some.2 ⟨rfl, hfirst⟩] at hfound
    obtain ⟨-, rfl⟩ := Prod.mk.inj (Option.some.inj hfound)
    obtain rfl := Option.some.inj (hkeys.symm.trans hs)
    cases hsingle

end Call

end ClientGen
