import ClientGen.Proofs.Middleware.Resolution

/-!
# Entries that name only earlier ones

Entries with names of their own, each of which comes after others at most that were registered
before it, are all accepted, and the stack of them has an order.
-/

namespace ClientGen

namespace Registry

open Relation

/-- Each entry has a new name, and comes first, last, or after an earlier entry of its phase. -/
def IsForwardFrom (earlier : List Middleware) : List Middleware → Prop
  | [] => True
  | d :: rest => (∀ x ∈ earlier, x.name ≠ d.name) ∧
      (d.position = .head ∨ d.position = .tail ∨
        ∃ p ∈ earlier, p.step = d.step ∧ d.position = .after p.name) ∧
      IsForwardFrom (earlier ++ [d]) rest

variable {r : Registry} {d : Middleware}

/-- Nothing that is registered earlier constrains an entry with a new name. -/
theorem not_constrains_of_new (hpeers : ∀ x peer, ¬ Dangles r.entries x peer)
    (hnew : ∀ x ∈ r.entries, x.name ≠ d.name)
    (hposition : d.position = .head ∨ d.position = .tail ∨
      ∃ p ∈ r.entries, p.step = d.step ∧ d.position = .after p.name) (y : Middleware) :
    ¬ Constrains (r.entries ++ [d]) d.step d y := by
  have hbefore : ∀ peer, d.position ≠ .before peer := by
    intro peer hpeer
    rcases hposition with h | h | ⟨p, -, -, h⟩ <;> rw [hpeer] at h <;> cases h
  intro hconstrains
  rcases hconstrains with ⟨-, -, -, -, h⟩ | ⟨hy, -, hys, -, h⟩
  · exact hbefore y.name h
  rcases List.mem_append.1 hy with hy | hy
  · -- An earlier entry has its peer among the earlier ones, none of which has the name.
    refine hpeers y d.name ⟨hy, .inr h, fun z hz _ => hnew z hz⟩
  · obtain rfl := List.mem_singleton.1 hy
    rcases hposition with hp | hp | ⟨p, hp, -, hafter⟩
    · rw [hp] at h
      cases h
    · rw [hp] at h
      cases h
    · rw [h] at hafter
      exact hnew p hp (Position.after.inj hafter).symm

/-- Such an entry is accepted, and its peer is there. -/
theorem register_forward (h : r.Coherent) (hpeers : ∀ x peer, ¬ Dangles r.entries x peer)
    (hnew : ∀ x ∈ r.entries, x.name ≠ d.name)
    (hposition : d.position = .head ∨ d.position = .tail ∨
      ∃ p ∈ r.entries, p.step = d.step ∧ d.position = .after p.name) :
    r.register d = .ok { r with entries := r.entries ++ [d] } ∧
      ∀ x peer, ¬ Dangles (r.entries ++ [d]) x peer := by
  have hsink := not_constrains_of_new hpeers hnew hposition
  constructor
  · have hacyclic : Acyclic (Constrains (r.entries ++ [d]) d.step) := by
      refine (h.acyclic d.step).of_sink hsink fun a b hb hconstrains => ?_
      have ha : a ≠ d := fun heq => hsink b (heq ▸ hconstrains)
      exact hconstrains.of_concat ha hb
    rw [register, submit_acyclic hnew hacyclic]
  · rintro x peer ⟨hx, hnames, hmissing⟩
    rcases List.mem_append.1 hx with hx | hx
    · exact hpeers x peer ⟨hx, hnames, fun y hy => hmissing y (List.mem_append_left _ hy)⟩
    · obtain rfl := List.mem_singleton.1 hx
      rcases hposition with hp | hp | ⟨p, hp, hps, hafter⟩
      · rw [hp] at hnames
        rcases hnames with h | h <;> cases h
      · rw [hp] at hnames
        rcases hnames with h | h <;> cases h
      · rw [hafter] at hnames
        rcases hnames with h | h
        · cases h
        · exact hmissing p (List.mem_append_left _ hp) hps (Position.after.inj h)

/-- A forward list is registered whole, and none of its entries dangles. -/
theorem registerAll_forward (h : r.Coherent) (hpeers : ∀ x peer, ¬ Dangles r.entries x peer)
    {ds : List Middleware} (hds : IsForwardFrom r.entries ds) :
    ∃ r', r.registerAll ds = .ok r' ∧ r'.Coherent ∧ ∀ x peer, ¬ Dangles r'.entries x peer := by
  induction ds generalizing r with
  | nil => exact ⟨r, rfl, h, hpeers⟩
  | cons d ds ih =>
    obtain ⟨hnew, hposition, hrest⟩ := hds
    obtain ⟨hregister, hpeers'⟩ := register_forward h hpeers hnew hposition
    have hcoherent : ({ r with entries := r.entries ++ [d] } : Registry).Coherent := by
      have hsubmit := h.submit d
      unfold register at hregister
      split at hregister
      · rename_i r' heq
        rw [heq] at hsubmit
        exact Except.ok.inj hregister ▸ hsubmit
      · cases hregister
    obtain ⟨r', hr', hresult⟩ := ih hcoherent hpeers' hrest
    refine ⟨r', ?_, hresult⟩
    change (r.register d >>= fun r => r.registerAll ds) = .ok r'
    rw [ok_bind hregister]
    exact hr'

/-- A new registry accepts such entries, and the stack of them has an order. -/
theorem registerAll_new (stack : String) {ds : List Middleware} (hds : IsForwardFrom [] ds) :
    ∃ r order, (new stack).registerAll ds = .ok r ∧ r.resolve = .ok order := by
  have hnone : ∀ x peer, ¬ Dangles (new stack).entries x peer := by
    rintro x peer ⟨hx, -, -⟩
    cases hx
  obtain ⟨r, hr, hcoherent, hpeers⟩ := registerAll_forward (coherent_new stack) hnone hds
  rcases hcoherent.resolve_cases with ⟨-, order, hresolve, -⟩ | ⟨x, peer, hfirst, -⟩
  · exact ⟨r, order, hr, hresolve⟩
  · exact absurd hfirst.1 (hpeers x peer)

end Registry

end ClientGen
