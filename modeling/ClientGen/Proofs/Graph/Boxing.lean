import ClientGen.Proofs.Order.Acyclic
import ClientGen.Proofs.Symbol.Paths

/-!
# No type holds itself by value

The members that are boxed are those whose targets lead back to their owners. So among the members
that are not boxed none lies on a closed walk, since its target would lead back to its owner.
-/

namespace ClientGen

theorem Shape.isRecord_of_mem_members {s : Shape} {e : Member} (he : e ∈ s.members) :
    s.isRecord = true := by
  unfold members at he
  split at he
  case h_1 hkind => simp [isRecord, isStructure, hkind]
  case h_2 hkind => simp [isRecord, isUnion, hkind]
  case h_3 => cases he

theorem Shape.name_finishSymbol (s : Shape) (symbol : Symbol) :
    (s.finishSymbol symbol).name = symbol.name := by
  unfold finishSymbol
  split <;> rfl

theorem Shape.name_recordSymbol (s : Shape) (ns : String) :
    (s.recordSymbol ns).name = s.generatedName := by
  unfold recordSymbol
  generalize s.generatedName = name
  rfl

namespace Model

open Relation

/-- A member of a structure or union that targets a structure or union. -/
def HasRecordMember (m : Model) (owner : ShapeId) (e : Member) : Prop :=
  ∃ s, m.shape? owner = some s ∧ s.isRecord = true ∧ e ∈ s.members ∧ m.isRecord e.target = true

/-- A member leads from one structure or union to the other. -/
def Holds (m : Model) (a b : ShapeId) : Prop := ∃ e, m.HasRecordMember a e ∧ e.target = b

/-- A member that need not be boxed leads from one structure or union to the other. -/
def HoldsUnboxed (m : Model) (a b : ShapeId) : Prop :=
  ∃ e, m.HasRecordMember a e ∧ e.target = b ∧ m.needsBox a e.name = false

/-- A member of the one structure or union has the type of the other, without a box. -/
def HoldsByValue (m : Model) (ns : String) (a b : ShapeId) : Prop :=
  ∃ e symbol t, m.HasRecordMember a e ∧ e.target = b ∧ m.memberSymbol ns a e = .ok symbol ∧
    m.shape? b = some t ∧ symbol.name = t.generatedName

variable {m : Model} {ns : String} {id : ShapeId} {s : Shape}

theorem isRecord_iff : m.isRecord id = true ↔ ∃ s, m.shape? id = some s ∧ s.isRecord = true := by
  simp [isRecord, Option.any_eq_true]

theorem Holds.isRecord {x y : ShapeId} (h : m.Holds x y) : m.isRecord y = true := by
  obtain ⟨e, ⟨-, -, -, -, hrecord⟩, rfl⟩ := h
  exact hrecord

/-- What a shape holds by value are the targets of its members that are structures or unions. -/
theorem mem_recordTargets (hs : m.shape? id = some s) {y : ShapeId} :
    y ∈ m.recordTargets s ↔ m.Holds id y := by
  simp only [recordTargets, List.mem_filter, List.mem_map]
  constructor
  · rintro ⟨⟨e, he, rfl⟩, hrecord⟩
    exact ⟨e, ⟨s, hs, Shape.isRecord_of_mem_members he, he, hrecord⟩, rfl⟩
  · rintro ⟨e, ⟨t, ht, -, he, hrecord⟩, rfl⟩
    obtain rfl : s = t := Option.some.inj (hs.symm.trans ht)
    exact ⟨⟨e, he, rfl⟩, hrecord⟩

/-- Members of what is seen lead to what is seen or pending. -/
def HoldsUpTo (m : Model) (pending seen : List ShapeId) : Prop :=
  ∀ x ∈ seen, ∀ y, m.Holds x y → y ∈ seen ∨ y ∈ pending

/-! ## One step of the walk -/

section

variable {seen pending : List ShapeId}

@[simp] theorem heldFrom_nil : m.heldFrom seen [] = seen := by
  rw [heldFrom]

theorem heldFrom_seen (h : id ∈ seen) : m.heldFrom seen (id :: pending) = m.heldFrom seen pending := by
  rw [heldFrom, dif_pos h]

theorem heldFrom_undefined (h : id ∉ seen) (hs : m.shape? id = none) :
    m.heldFrom seen (id :: pending) = m.heldFrom seen pending := by
  rw [heldFrom, dif_neg h, hs]

theorem heldFrom_new (h : id ∉ seen) (hs : m.shape? id = some s) :
    m.heldFrom seen (id :: pending) = m.heldFrom (id :: seen) (m.recordTargets s ++ pending) := by
  rw [heldFrom, dif_neg h, hs]

/-- What is seen already, or is no structure or union, need not be pending. -/
theorem HoldsUpTo.skip (h : m.HoldsUpTo (id :: pending) seen)
    (hid : m.isRecord id = true → id ∈ seen) : m.HoldsUpTo pending seen := by
  intro x hx y hy
  rcases h x hx y hy with hseen | hpending
  · exact .inl hseen
  · rcases List.mem_cons.1 hpending with rfl | hpending
    · exact .inl (hid hy.isRecord)
    · exact .inr hpending

/-- With a new shape, the structures and unions that it holds become pending. -/
theorem HoldsUpTo.visit (h : m.HoldsUpTo (id :: pending) seen) (hs : m.shape? id = some s) :
    m.HoldsUpTo (m.recordTargets s ++ pending) (id :: seen) := by
  intro x hx y hy
  rw [List.mem_cons, List.mem_append]
  rcases List.mem_cons.1 hx with rfl | hx
  · exact .inr (.inl ((mem_recordTargets hs).2 hy))
  · rcases h x hx y hy with hseen | hpending
    · exact .inl (.inr hseen)
    · rcases List.mem_cons.1 hpending with rfl | hpending
      · exact .inl (.inl rfl)
      · exact .inr (.inr hpending)

end

/-! ## The whole walk -/

/-- Whatever the walk finds, something pending leads to it. -/
theorem reflTransGen_of_mem_heldFrom {seen pending : List ShapeId} {x : ShapeId}
    (h : x ∈ m.heldFrom seen pending) : x ∈ seen ∨ ∃ p ∈ pending, ReflTransGen m.Holds p x := by
  induction seen, pending using heldFrom.induct m with
  | case1 seen =>
    rw [heldFrom_nil] at h
    exact .inl h
  | case2 seen id pending hmem ih =>
    rw [heldFrom_seen hmem] at h
    exact (ih h).imp_right fun ⟨p, hp, hw⟩ => ⟨p, List.mem_cons_of_mem _ hp, hw⟩
  | case3 seen id pending hnew hs ih =>
    rw [heldFrom_undefined hnew hs] at h
    exact (ih h).imp_right fun ⟨p, hp, hw⟩ => ⟨p, List.mem_cons_of_mem _ hp, hw⟩
  | case4 seen id pending hnew s hs ih =>
    rw [heldFrom_new hnew hs] at h
    rcases ih h with hseen | ⟨p, hp, hw⟩
    · rcases List.mem_cons.1 hseen with rfl | hseen
      · exact .inr ⟨x, List.mem_cons_self, .refl⟩
      · exact .inl hseen
    · rcases List.mem_append.1 hp with hp | hp
      · exact .inr ⟨id, List.mem_cons_self, .head ((mem_recordTargets hs).1 hp) hw⟩
      · exact .inr ⟨p, List.mem_cons_of_mem _ hp, hw⟩

/-- The walk keeps what it has seen and finds the structures and unions that are pending. What it
ends with holds nothing else, if this is so but for what is pending. -/
theorem heldFrom_closed (seen pending : List ShapeId) :
    (∀ x ∈ seen, x ∈ m.heldFrom seen pending) ∧
      (∀ p ∈ pending, m.isRecord p = true → p ∈ m.heldFrom seen pending) ∧
      (m.HoldsUpTo pending seen → m.HoldsUpTo [] (m.heldFrom seen pending)) := by
  induction seen, pending using heldFrom.induct m with
  | case1 seen =>
    rw [heldFrom_nil]
    refine ⟨fun _ hx => hx, fun p hp => ?_, fun h => h⟩
    cases hp
  | case2 seen id pending hmem ih =>
    rw [heldFrom_seen hmem]
    obtain ⟨hkeep, hreach, hclosed⟩ := ih
    refine ⟨hkeep, fun p hp hrecord => ?_, fun h => hclosed (h.skip fun _ => hmem)⟩
    rcases List.mem_cons.1 hp with rfl | hp
    · exact hkeep p hmem
    · exact hreach p hp hrecord
  | case3 seen id pending hnew hs ih =>
    -- A shape that is not defined is no structure or union.
    have hid : m.isRecord id ≠ true := fun hrecord => by
      obtain ⟨s, hs', -⟩ := isRecord_iff.1 hrecord
      rw [hs] at hs'
      cases hs'
    rw [heldFrom_undefined hnew hs]
    obtain ⟨hkeep, hreach, hclosed⟩ := ih
    refine ⟨hkeep, fun p hp hrecord => ?_, fun h => hclosed (h.skip fun hrecord => ?_)⟩
    · rcases List.mem_cons.1 hp with rfl | hp
      · exact absurd hrecord hid
      · exact hreach p hp hrecord
    · exact absurd hrecord hid
  | case4 seen id pending hnew s hs ih =>
    rw [heldFrom_new hnew hs]
    obtain ⟨hkeep, hreach, hclosed⟩ := ih
    refine ⟨fun x hx => hkeep x (List.mem_cons_of_mem _ hx), fun p hp hrecord => ?_,
      fun h => hclosed (h.visit hs)⟩
    rcases List.mem_cons.1 hp with rfl | hp
    · exact hkeep p List.mem_cons_self
    · exact hreach p (List.mem_append_right _ hp) hrecord

/-- The walk from a structure or union finds all that members lead to, and nothing else. -/
theorem mem_heldFrom_iff (hid : m.isRecord id = true) {x : ShapeId} :
    x ∈ m.heldFrom [] [id] ↔ ReflTransGen m.Holds id x := by
  constructor
  · intro h
    rcases reflTransGen_of_mem_heldFrom h with hseen | ⟨p, hp, hw⟩
    · cases hseen
    · obtain rfl := List.mem_singleton.1 hp
      exact hw
  · intro hw
    obtain ⟨-, hreach, hclosed⟩ := heldFrom_closed (m := m) [] [id]
    induction hw with
    | refl => exact hreach id List.mem_cons_self hid
    | tail _ he ih =>
      rcases hclosed (fun x hx => by cases hx) _ ih _ he with hmem | hmem
      · exact hmem
      · cases hmem

/-! ## Boxes -/

/-- A member has to be boxed if and only if its target leads back to its owner. -/
theorem needsBox_iff {owner : ShapeId} {name : String} : m.needsBox owner name = true ↔
    ∃ e, m.HasRecordMember owner e ∧ e.name = name ∧ ReflTransGen m.Holds e.target owner := by
  simp only [needsBox, Option.any_eq_true, List.any_eq_true, Bool.and_eq_true, beq_iff_eq,
    List.contains_iff_mem]
  constructor
  · rintro ⟨s, hs, e, he, ⟨hname, hrecord⟩, hback⟩
    exact ⟨e, ⟨s, hs, Shape.isRecord_of_mem_members he, he, hrecord⟩, hname,
      (mem_heldFrom_iff hrecord).1 hback⟩
  · rintro ⟨e, ⟨s, hs, -, he, hrecord⟩, hname, hback⟩
    exact ⟨s, hs, e, he, ⟨hname, hrecord⟩, (mem_heldFrom_iff hrecord).2 hback⟩

theorem HoldsUnboxed.holds {a b : ShapeId} (h : m.HoldsUnboxed a b) : m.Holds a b := by
  obtain ⟨e, he, htarget, -⟩ := h
  exact ⟨e, he, htarget⟩

theorem acyclic_holdsUnboxed (m : Model) : Acyclic m.HoldsUnboxed := by
  intro a hw
  obtain ⟨b, ⟨e, he, rfl, hunboxed⟩, hback⟩ := TransGen.head'_iff.1 hw
  have hboxed : m.needsBox a e.name = true :=
    needsBox_iff.2 ⟨e, he, rfl,
      ReflTransGen.mono (fun _ _ => HoldsUnboxed.holds) _ _ hback⟩
  rw [hunboxed] at hboxed
  cases hboxed

/-- The symbol of a structure or union is named for it. -/
theorem symbol_name_of_isRecord (hs : m.shape? id = some s) (hrecord : s.isRecord = true)
    {symbol : Symbol} (h : m.symbol ns id = .ok symbol) : symbol.name = s.generatedName := by
  rw [Model.symbol, symbolFrom_shape List.not_mem_nil hs] at h
  unfold Shape.symbolWith at h
  split at h
  case h_1 | h_2 =>
    obtain rfl := Except.ok.inj h
    rw [Shape.name_finishSymbol, Shape.name_recordSymbol]
  all_goals
    rename_i hkind
    simp [Shape.isRecord, Shape.isStructure, Shape.isUnion, hkind] at hrecord

/-- The type of a member is the type of its target, in a box if the member needs one. -/
theorem memberSymbol_name {owner : ShapeId} {e : Member} {symbol : Symbol}
    (h : m.memberSymbol ns owner e = .ok symbol) :
    ∃ target, m.symbol ns e.target = .ok target ∧
      symbol.name = if m.needsBox owner e.name then target.boxed.name else target.name := by
  obtain ⟨target, htarget, h⟩ := bind_eq_ok.1 h
  refine ⟨target, htarget, ?_⟩
  have hrefined : ∃ refined : Symbol, refined.name = target.name ∧
      (if m.needsBox owner e.name then refined.boxed else refined) = symbol := by
    obtain ⟨s, -, h⟩ := bind_eq_ok.1 h
    dsimp only at h
    split at h
    · exact ⟨target.withNullable false, rfl, Except.ok.inj h⟩
    split at h
    · obtain ⟨refined, hfallback, h⟩ := bind_eq_ok.1 h
      obtain ⟨expr, -, rfl⟩ := map_eq_ok.1 hfallback
      exact ⟨target.withFallback expr, rfl, Except.ok.inj h⟩
    · obtain ⟨refined, hrefined, h⟩ := bind_eq_ok.1 h
      obtain rfl := Except.ok.inj hrefined
      refine ⟨_, ?_, Except.ok.inj h⟩
      rfl
  obtain ⟨refined, hname, rfl⟩ := hrefined
  split
  · rw [Symbol.boxed, Symbol.boxed, hname]
  · exact hname

theorem name_boxed_ne (s : Symbol) : s.boxed.name ≠ s.name := by
  intro h
  have hlength := congrArg String.length h
  change ("Box<" ++ s.name ++ ">").length = s.name.length at hlength
  rw [String.length_append, String.length_append] at hlength
  have hopen : "Box<".length = 4 := rfl
  omega

theorem HoldsByValue.holdsUnboxed {a b : ShapeId} (h : m.HoldsByValue ns a b) :
    m.HoldsUnboxed a b := by
  obtain ⟨e, symbol, t, he, rfl, hsymbol, ht, hname⟩ := h
  refine ⟨e, he, rfl, ?_⟩
  obtain ⟨target, htarget, hboxed⟩ := memberSymbol_name hsymbol
  obtain ⟨-, -, -, -, hrecord⟩ := he
  obtain ⟨t', ht', hrecord⟩ := isRecord_iff.1 hrecord
  obtain rfl : t = t' := Option.some.inj (ht.symm.trans ht')
  by_contra hneeds
  rw [Bool.not_eq_false] at hneeds
  rw [hneeds, if_pos rfl, hname, ← symbol_name_of_isRecord ht hrecord htarget] at hboxed
  exact name_boxed_ne target hboxed.symm

/-- A member has to be boxed exactly if its owner is a structure or union and its target one from
which members lead back to the owner, and then it gets the type of its target in a box. No walk
along the other members between structures and unions comes back to where it started, be they told
by the need for a box or by the types that they get. -/
theorem needsBox_iff_and_acyclic (m : Model) :
    (∀ owner name, m.needsBox owner name = true ↔
      ∃ e, m.HasRecordMember owner e ∧ e.name = name ∧ ReflTransGen m.Holds e.target owner) ∧
    (∀ ns owner e symbol, m.memberSymbol ns owner e = .ok symbol →
      ∃ target, m.symbol ns e.target = .ok target ∧
        symbol.name = if m.needsBox owner e.name then target.boxed.name else target.name) ∧
    Acyclic m.HoldsUnboxed ∧ ∀ ns, Acyclic (m.HoldsByValue ns) := by
  refine ⟨fun owner name => needsBox_iff, fun ns owner e symbol => memberSymbol_name,
    acyclic_holdsUnboxed m, fun ns => ?_⟩
  exact (acyclic_holdsUnboxed m).of_map id fun _ _ => HoldsByValue.holdsUnboxed

end Model

end ClientGen
