import Mathlib.Data.List.Forall2

/-!
# Results of several calls

What is known of the parts of a computation that may fail, and what follows for the whole.
-/

namespace ClientGen

variable {ε α β : Type}

/-! ## Calls that go well -/

theorem ok_bind {x : Except ε α} {a : α} (h : x = .ok a) (f : α → Except ε β) : x >>= f = f a := by
  rw [h]
  rfl

@[simp] theorem bind_ok (a : α) (f : α → Except ε β) : (Except.ok a : Except ε α) >>= f = f a := rfl

@[simp] theorem bind_error (e : ε) (f : α → Except ε β) :
    (Except.error e : Except ε α) >>= f = .error e := rfl

theorem map_eq_bind (f : α → β) (x : Except ε α) : x.map f = x >>= fun a => .ok (f a) := by
  cases x <;> rfl

/-- Two calls go well if the first one does, and the second one with what the first one gave. -/
theorem bind_eq_ok {x : Except ε α} {f : α → Except ε β} {b : β} :
    x >>= f = .ok b ↔ ∃ a, x = .ok a ∧ f a = .ok b := by
  constructor
  · intro h
    cases x with
    | ok a => exact ⟨a, rfl, h⟩
    | error e => cases h
  · rintro ⟨a, rfl, hf⟩
    exact hf

theorem map_eq_ok {f : α → β} {x : Except ε α} {b : β} :
    x.map f = .ok b ↔ ∃ a, x = .ok a ∧ f a = b := by
  constructor
  · intro h
    cases x with
    | ok a => exact ⟨a, rfl, Except.ok.inj h⟩
    | error e => cases h
  · rintro ⟨a, rfl, rfl⟩
    rfl

theorem exists_map_eq_ok {f : α → β} {x : Except ε α} :
    (∃ b, x.map f = .ok b) ↔ ∃ a, x = .ok a := by
  cases x <;> simp [Except.map]

theorem mapM_eq_ok {f : α → Except ε β} {g : α → β} {l : List α} (h : ∀ a ∈ l, f a = .ok (g a)) :
    l.mapM f = .ok (l.map g) := by
  induction l with
  | nil => rfl
  | cons a l ih =>
    have ha := h a List.mem_cons_self
    have hl := ih fun b hb => h b (List.mem_cons_of_mem _ hb)
    rw [List.mapM_cons, ha, hl]
    rfl

theorem exists_of_mem_mapM {f : α → Except ε β} {l : List α} {bs : List β} (h : l.mapM f = .ok bs) :
    ∀ a ∈ l, ∃ b ∈ bs, f a = .ok b := by
  induction l generalizing bs with
  | nil =>
    intro a ha
    cases ha
  | cons a l ih =>
    rw [List.mapM_cons] at h
    obtain ⟨b, hb, h⟩ := bind_eq_ok.1 h
    obtain ⟨rest, hrest, h⟩ := bind_eq_ok.1 h
    obtain rfl := Except.ok.inj h
    intro x hx
    rcases List.mem_cons.1 hx with rfl | hx
    · exact ⟨b, List.mem_cons_self, hb⟩
    · obtain ⟨c, hc, hx⟩ := ih hrest x hx
      exact ⟨c, List.mem_cons_of_mem _ hc, hx⟩

/-- Every result is that of one of the calls. -/
theorem exists_of_mem_results {f : α → Except ε β} {l : List α} {bs : List β}
    (h : l.mapM f = .ok bs) : ∀ b ∈ bs, ∃ a ∈ l, f a = .ok b := by
  induction l generalizing bs with
  | nil =>
    obtain rfl := Except.ok.inj h
    intro b hb
    cases hb
  | cons a l ih =>
    rw [List.mapM_cons] at h
    obtain ⟨b, hb, h⟩ := bind_eq_ok.1 h
    obtain ⟨rest, hrest, h⟩ := bind_eq_ok.1 h
    obtain rfl := Except.ok.inj h
    intro x hx
    rcases List.mem_cons.1 hx with rfl | hx
    · exact ⟨a, List.mem_cons_self, hb⟩
    · obtain ⟨c, hc, hx⟩ := ih hrest x hx
      exact ⟨c, List.mem_cons_of_mem _ hc, hx⟩

/-- What the results of some calls hold, one after the other, is what each of them holds. -/
theorem flatMap_of_mapM {γ : Type} {f : α → Except ε β} {g : β → List γ} {h : α → List γ}
    (hstep : ∀ a b, f a = .ok b → g b = h a) {l : List α} {bs : List β} (hbs : l.mapM f = .ok bs) :
    bs.flatMap g = l.flatMap h := by
  induction l generalizing bs with
  | nil =>
    obtain rfl := Except.ok.inj hbs
    rfl
  | cons a l ih =>
    rw [List.mapM_cons] at hbs
    obtain ⟨b, hb, hbs⟩ := bind_eq_ok.1 hbs
    obtain ⟨rest, hrest, hbs⟩ := bind_eq_ok.1 hbs
    obtain rfl := Except.ok.inj hbs
    rw [List.flatMap_cons, List.flatMap_cons, hstep a b hb, ih hrest]

/-- What is said of the results of some calls, one by one, is what is said of the arguments. -/
theorem map_of_mapM {γ : Type} {f : α → Except ε β} {g : β → γ} {h : α → γ}
    (hstep : ∀ a b, f a = .ok b → g b = h a) {l : List α} {bs : List β} (hbs : l.mapM f = .ok bs) :
    bs.map g = l.map h := by
  rw [List.map_eq_flatMap, List.map_eq_flatMap]
  exact flatMap_of_mapM (fun a b hab => congrArg ([·]) (hstep a b hab)) hbs

/-- The results of some calls stand beside their arguments. -/
theorem forall₂_of_mapM {f : α → Except ε β} {l : List α} {bs : List β}
    (h : l.mapM f = .ok bs) : List.Forall₂ (fun a b => f a = .ok b) l bs := by
  induction l generalizing bs with
  | nil =>
    obtain rfl := Except.ok.inj h
    exact .nil
  | cons a l ih =>
    rw [List.mapM_cons] at h
    obtain ⟨b, hb, h⟩ := bind_eq_ok.1 h
    obtain ⟨rest, hrest, h⟩ := bind_eq_ok.1 h
    obtain rfl := Except.ok.inj h
    exact .cons hb (ih hrest)

/-- Where each call gives something with a property, all of them give a list of such things. -/
theorem mapM_exists_ok {f : α → Except ε β} {P : β → Prop} {l : List α}
    (h : ∀ a ∈ l, ∃ b, f a = .ok b ∧ P b) : ∃ bs, l.mapM f = .ok bs ∧ ∀ b ∈ bs, P b := by
  induction l with
  | nil =>
    refine ⟨[], rfl, fun b hb => ?_⟩
    cases hb
  | cons a l ih =>
    obtain ⟨b, ha, hb⟩ := h a List.mem_cons_self
    obtain ⟨bs, hl, hbs⟩ := ih fun a ha => h a (List.mem_cons_of_mem _ ha)
    refine ⟨b :: bs, ?_, fun c hc => ?_⟩
    · rw [List.mapM_cons, ha, hl]
      rfl
    · rcases List.mem_cons.1 hc with rfl | hc
      · exact hb
      · exact hbs c hc

/-- Calls without a value go well if each of them does. -/
theorem forM_eq_ok {f : α → Except ε Unit} {l : List α} (h : l.forM f = .ok ()) :
    ∀ a ∈ l, f a = .ok () := by
  induction l with
  | nil =>
    intro a ha
    cases ha
  | cons b l ih =>
    obtain ⟨⟨⟩, hb, hl⟩ := bind_eq_ok.1 (show f b >>= (fun _ => l.forM f) = .ok () from h)
    intro a ha
    rcases List.mem_cons.1 ha with rfl | ha
    · exact hb
    · exact ih hl a ha

theorem forM_of_forall_ok {f : α → Except ε Unit} {l : List α}
    (h : ∀ a ∈ l, f a = .ok ()) : l.forM f = .ok () := by
  induction l with
  | nil => rfl
  | cons a l ih =>
    have hl := ih fun b hb => h b (List.mem_cons_of_mem _ hb)
    change f a >>= (fun _ => l.forM f) = .ok ()
    rw [ok_bind (h a List.mem_cons_self), hl]

/-- What each call of a sequence keeps, the whole sequence keeps. -/
theorem foldlM_ok_rel {R : β → β → Prop} (refl : ∀ b, R b b)
    (trans : ∀ a b c, R a b → R b c → R a c) {f : β → α → Except ε β} {l : List α}
    (step : ∀ a ∈ l, ∀ b b', f b a = .ok b' → R b b') {b b' : β} (h : l.foldlM f b = .ok b') :
    R b b' := by
  induction l generalizing b with
  | nil =>
    obtain rfl := Except.ok.inj h
    exact refl b
  | cons a l ih =>
    rw [List.foldlM_cons] at h
    obtain ⟨middle, hfirst, hrest⟩ := bind_eq_ok.1 h
    refine trans _ _ _ (step a List.mem_cons_self _ _ hfirst) (ih (fun x hx => ?_) hrest)
    exact step x (List.mem_cons_of_mem _ hx)

/-! ## Calls that give the same -/

/-- Two computations that start alike are the same if they go on alike from what the start gives. -/
theorem bind_congr_of_ok {x : Except ε α} {f g : α → Except ε β} (h : ∀ a, x = .ok a → f a = g a) :
    x >>= f = x >>= g := by
  cases x with
  | ok a => exact h a rfl
  | error e => rfl

theorem map_bind_eq {γ : Type} (x : Except ε α) (f : α → β) (g : β → Except ε γ) :
    x.map f >>= g = x >>= fun a => g (f a) := by
  cases x <;> rfl

/-- Two computations agree but for what `v` leaves out if their starts agree but for what `u` leaves
out, and they go on alike from what then counts as equal. -/
theorem bind_map_congr {γ δ : Type} {x y : Except ε α} {f g : α → Except ε β} (u : α → γ)
    {v : β → δ} (hxy : x.map u = y.map u)
    (hfg : ∀ a b, u a = u b → (f a).map v = (g b).map v) :
    (x >>= f).map v = (y >>= g).map v := by
  cases x with
  | error e =>
    cases y with
    | error e' =>
      obtain rfl := Except.error.inj hxy
      rfl
    | ok b => cases hxy
  | ok a =>
    cases y with
    | error e' => cases hxy
    | ok b => exact hfg a b (Except.ok.inj hxy)

/-- Calls for changed arguments are the calls for the arguments themselves if each of them is. -/
theorem mapM_map_congr {γ : Type} {u : α → γ} {f : γ → Except ε β} {g : α → Except ε β} {l : List α}
    (h : ∀ a ∈ l, f (u a) = g a) : (l.map u).mapM f = l.mapM g := by
  induction l with
  | nil => rfl
  | cons a l ih =>
    rw [List.map_cons, List.mapM_cons, List.mapM_cons, h a List.mem_cons_self,
      ih fun b hb => h b (List.mem_cons_of_mem _ hb)]

theorem mapM_congr_of_mem {f g : α → Except ε β} {l : List α} (h : ∀ a ∈ l, f a = g a) :
    l.mapM f = l.mapM g := by
  rw [← mapM_map_congr (u := id) (g := g) h, List.map_id]

/-- To change each result is to change the results of each call. -/
theorem map_mapM {γ : Type} (u : β → γ) (f : α → Except ε β) (l : List α) :
    (l.mapM f).map (List.map u) = l.mapM fun a => (f a).map u := by
  induction l with
  | nil => rfl
  | cons a l ih =>
    rw [List.mapM_cons, List.mapM_cons, ← ih]
    cases f a with
    | error e => rfl
    | ok b => cases l.mapM f <;> rfl

theorem forM_congr_of_mem {f g : α → Except ε Unit} {l : List α} (h : ∀ a ∈ l, f a = g a) :
    l.forM f = l.forM g := by
  induction l with
  | nil => rfl
  | cons a l ih =>
    change (f a >>= fun _ => l.forM f) = g a >>= fun _ => l.forM g
    rw [h a List.mem_cons_self, ih fun b hb => h b (List.mem_cons_of_mem _ hb)]

/-! ## Calls that fail -/

/-- The first call that fails decides the error. -/
theorem mapM_eq_error {f : α → Except ε β} {g : α → β} {before after : List α} {a : α} {e : ε}
    (h : ∀ b ∈ before, f b = .ok (g b)) (ha : f a = .error e) :
    (before ++ a :: after).mapM f = .error e := by
  rw [List.mapM_append, mapM_eq_ok h, List.mapM_cons, ha]
  rfl

/-- Whatever error the computation gives, it has the property. -/
def FailsOnly (P : ε → Prop) (r : Except ε α) : Prop := ∀ e, r = .error e → P e

namespace FailsOnly

variable {P Q : ε → Prop} {r : Except ε α}

theorem ok (a : α) : FailsOnly P (.ok a : Except ε α) := by
  intro e h
  cases h

theorem error {e : ε} (h : P e) : FailsOnly P (.error e : Except ε α) := by
  intro e' he
  cases he
  exact h

theorem of_eq_ok (h : ∃ a, r = .ok a) : FailsOnly P r := by
  obtain ⟨a, rfl⟩ := h
  exact ok a

theorem mono (hr : FailsOnly P r) (h : ∀ e, P e → Q e) : FailsOnly Q r := fun e he => h e (hr e he)

theorem bind {f : α → Except ε β} (hr : FailsOnly P r) (hf : ∀ a, r = .ok a → FailsOnly P (f a)) :
    FailsOnly P (r >>= f) := by
  cases r with
  | ok a => exact hf a rfl
  | error e => exact error (hr e rfl)

theorem map {f : α → β} (hr : FailsOnly P r) : FailsOnly P (r.map f) := by
  cases r with
  | ok a => exact ok (f a)
  | error e => exact error (hr e rfl)

theorem mapError {δ : Type} {f : ε → δ} {P : δ → Prop} (h : ∀ e, P (f e)) (r : Except ε α) :
    FailsOnly P (r.mapError f) := by
  cases r with
  | ok a => exact ok a
  | error e => exact error (h e)

theorem mapM {f : α → Except ε β} {l : List α} (h : ∀ a ∈ l, FailsOnly P (f a)) :
    FailsOnly P (l.mapM f) := by
  induction l with
  | nil => exact ok []
  | cons a l ih =>
    rw [List.mapM_cons]
    refine (h a List.mem_cons_self).bind fun b _ => ?_
    exact (ih fun a ha => h a (List.mem_cons_of_mem _ ha)).bind fun bs _ => ok (b :: bs)

/-- A computation goes well, or gives an error with the property. -/
theorem ok_or_error (hr : FailsOnly P r) : (∃ a, r = .ok a) ∨ ∃ e, r = .error e ∧ P e := by
  cases r with
  | ok a => exact .inl ⟨a, rfl⟩
  | error e => exact .inr ⟨e, rfl, hr e rfl⟩

end FailsOnly

end ClientGen
