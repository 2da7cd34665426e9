import ClientGen.Proofs.Code.Lines
import ClientGen.Proofs.Code.Writing
import ClientGen.Proofs.Middleware.Resolution

/-!
# The statements of a stack

Rendering writes one statement for each entry, in the order of the stack. A statement whose text has
no line feed takes one line, at the depth of the module. A stack that has no order writes nothing.
-/

namespace ClientGen

/-! ## Texts with another text put in -/

namespace Text

theorem mem_replaceFrom {old new : List Char} {c : Char} {skip : Nat} {cs : List Char}
    (h : c ∈ replaceFrom old new skip cs) : c ∈ new ∨ c ∈ cs := by
  induction cs generalizing skip with
  | nil => simp [replaceFrom] at h
  | cons d cs ih =>
    have hrest : ∀ skip, c ∈ replaceFrom old new skip cs → c ∈ new ∨ c ∈ d :: cs := fun skip hc =>
      (ih hc).imp_right (List.mem_cons_of_mem _)
    cases skip with
    | succ skip => exact hrest skip (by simpa [replaceFrom] using h)
    | zero =>
      simp only [replaceFrom] at h
      split at h
      · rcases List.mem_append.1 h with h | h
        · exact .inl h
        · exact hrest _ h
      · rcases List.mem_cons.1 h with rfl | h
        · exact .inr List.mem_cons_self
        · exact hrest _ h

/-- Putting a text of one line into another one leaves one line. -/
theorem isSingleLine_replaceAll {text new : String} (old : String) (htext : IsSingleLine text)
    (hnew : IsSingleLine new) : IsSingleLine (replaceAll text old new) := by
  intro h
  rw [replaceAll, String.toList_ofList] at h
  rcases mem_replaceFrom h with h | h
  · exact hnew h
  · exact htext h

end Text

namespace Registry

/-! ## Statements -/

/-- The statement that adds an entry to the stack bound to a name. -/
def pushText (operation : ShapeId) (stack : String) (d : Middleware) : String :=
  stack ++ ".push(" ++ d.step.path ++ ", "
    ++ Text.replaceAll d.constructor "\x7boperation\x7d" operation.name ++ ");"

theorem code_push (operation : ShapeId) (stack : String) (d : Middleware) :
    (push operation stack d).code = .text (pushText operation stack d) := by
  unfold push Stmt.code
  have htext : (Expr.method (.source stack) "push" [.source d.step.path,
      .source (Text.replaceAll d.constructor "\x7boperation\x7d" operation.name)]).text ++ ";" =
        pushText operation stack d := by
    simp [Expr.text, Expr.texts, pushText, String.append_assoc]
  exact congrArg Code.text htext

/-- A statement is written without a line feed, where its parts have none. -/
theorem isSingleLine_pushText {operation : ShapeId} {stack : String} {d : Middleware}
    (hstack : Text.IsSingleLine stack) (hoperation : Text.IsSingleLine operation.name)
    (hd : Text.IsSingleLine d.constructor) : Text.IsSingleLine (pushText operation stack d) := by
  have hpath : Text.IsSingleLine d.step.path := by
    unfold Text.IsSingleLine
    cases d.step <;> decide
  have hexpr := Text.isSingleLine_replaceAll "\x7boperation\x7d" hd hoperation
  unfold Text.IsSingleLine at *
  simp [pushText, hstack, hpath, hexpr]

/-- A statement has something else than blanks. -/
theorem allBlank_pushText (operation : ShapeId) (stack : String) (d : Middleware) :
    Text.allBlank (pushText operation stack d).toList = false := by
  have hmem : '(' ∈ (pushText operation stack d).toList := by
    simp [pushText]
  have hblank : Text.isBlank '(' = false := by decide
  unfold Text.allBlank
  rw [List.all_eq_false]
  exact ⟨'(', hmem, by simp [hblank]⟩

/-! ## Writing them -/

/-- A call that renders the registry into a module: its answer, and the module after it. -/
def renderInto (r : Registry) (operation : ShapeId) (stack : String) (w : Writer) :
    Except GenerationError Unit × Writer :=
  match r.render operation stack with
  | .ok statements => (.ok (), w.emit (codeOfStmts statements))
  | .error e => (.error e, w)

variable {r : Registry}

theorem renderInto_error {e : GenerationError} (h : r.resolve = .error e) (operation : ShapeId)
    (stack : String) (w : Writer) : r.renderInto operation stack w = (.error e, w) := by
  have hrender : r.render operation stack = .error e := by
    rw [render, h]
    rfl
  rw [renderInto, hrender]

theorem renderInto_ok {order : List Middleware} (h : r.resolve = .ok order) (operation : ShapeId)
    (stack : String) (w : Writer) : r.renderInto operation stack w =
      (.ok (), w.emit (codeOfStmts (order.map (push operation stack)))) := by
  have hrender : r.render operation stack = .ok (order.map (push operation stack)) := by
    rw [render, h]
    rfl
  rw [renderInto, hrender]

/-- The statements are written one by one. -/
theorem emit_pushes (operation : ShapeId) (stack : String) (order : List Middleware) (w : Writer) :
    w.emit (codeOfStmts (order.map (push operation stack))) =
      order.foldl (fun w d => w.write (pushText operation stack d)) w := by
  induction order generalizing w with
  | nil => exact w.emit_nil
  | cons d order ih =>
    rw [List.map_cons, codeOfStmts, Writer.emit_cons, ih, code_push]
    rfl

/-- A text of one line that is not blank is written as this line. -/
theorem write_singleLine {text : String} (w : Writer) (hline : Text.IsSingleLine text)
    (hblank : Text.allBlank text.toList = false) :
    w.write text = w.place (w.lines ++ [Code.indent w.depth ++ text]) w.scopes := by
  have hne : text.toList ≠ [] := by
    intro hnil
    rw [hnil] at hblank
    cases hblank
  rw [Writer.write_eq, Code.textLines, Text.lines_singleLine hline hne, List.map_singleton,
    Code.indented, if_neg (by simp [hblank])]

/-- Statements of one line each take as many lines, and leave the rest of the module alone. -/
theorem foldl_write_pushText {operation : ShapeId} {stack : String} {order : List Middleware}
    (w : Writer) (hline : ∀ d ∈ order, Text.IsSingleLine (pushText operation stack d)) :
    order.foldl (fun w d => w.write (pushText operation stack d)) w =
      w.place (w.lines ++ order.map fun d => Code.indent w.depth ++ pushText operation stack d)
        w.scopes := by
  induction order generalizing w with
  | nil =>
    rw [List.foldl_nil, List.map_nil, List.append_nil]
    rfl
  | cons d order ih =>
    have hd := hline d List.mem_cons_self
    have hrest := fun d hd => hline d (List.mem_cons_of_mem _ hd)
    rw [List.foldl_cons, write_singleLine w hd (allBlank_pushText operation stack d), ih _ hrest]
    simp only [Writer.place_place, Writer.lines_place, Writer.scopes_place, Writer.depth_place,
      List.map_cons, List.append_assoc, List.singleton_append]
    rfl

/-! ## After any calls -/

/-- An entry with a peer in its phase is on the side of the peer that it asks for. -/
theorem IsStackOrder.before_after (h : r.Coherent) {order : List Middleware}
    (ho : r.IsStackOrder order) (hpeers : ∀ x peer, ¬ Dangles r.entries x peer) :
    (∀ x ∈ r.entries, ∀ peer, x.position = .before peer → ∃ p ∈ r.entries,
      p.step = x.step ∧ p.name = peer ∧ order.idxOf x < order.idxOf p) ∧
    (∀ x ∈ r.entries, ∀ peer, x.position = .after peer → ∃ p ∈ r.entries,
      p.step = x.step ∧ p.name = peer ∧ order.idxOf p < order.idxOf x) := by
  have hpeer := forall_not_dangles.1 hpeers
  constructor
  · intro x hx peer hposition
    obtain ⟨p, hp, hps, rfl⟩ := hpeer x hx peer (.inl hposition)
    exact ⟨p, hp, hps, rfl, ho.before h (.before hx hp rfl hps hposition)⟩
  · intro x hx peer hposition
    obtain ⟨p, hp, hps, rfl⟩ := hpeer x hx peer (.inr hposition)
    exact ⟨p, hp, hps, rfl, ho.before h (.after hx hp rfl hps hposition)⟩

/-- After any calls, resolving gives an order exactly if each peer is in the phase of the entry that
names it; the order has all entries, phase by phase, on the sides of their peers that they ask for,
and rendering writes one statement for each in this order. Otherwise the first entry whose peer is
missing is reported, and nothing is written. -/
theorem resolve_of_calls (label : String) (ds : List Middleware) (operation : ShapeId)
    (stack : String) (w : Writer) :
    let r := (new label).submitAll ds
    ((∃ order, r.resolve = .ok order) ↔
      ∀ x ∈ r.entries, ∀ peer, x.position = .before peer ∨ x.position = .after peer →
        ∃ p ∈ r.entries, p.step = x.step ∧ p.name = peer) ∧
    (∀ e, r.resolve = .error e →
      (∃ x peer, IsFirstDangling r.entries x peer ∧ e = .unknownPeer x.name peer x.step) ∧
      r.renderInto operation stack w = (.error e, w)) ∧
    (∀ order, r.resolve = .ok order →
      order.Perm r.entries ∧ (order.Pairwise fun x y => x.step.rank ≤ y.step.rank) ∧
      (∀ x ∈ r.entries, ∀ peer, x.position = .before peer → ∃ p ∈ r.entries,
        p.step = x.step ∧ p.name = peer ∧ order.idxOf x < order.idxOf p) ∧
      (∀ x ∈ r.entries, ∀ peer, x.position = .after peer → ∃ p ∈ r.entries,
        p.step = x.step ∧ p.name = peer ∧ order.idxOf p < order.idxOf x) ∧
      r.renderInto operation stack w =
        (.ok (), order.foldl (fun w d => w.write (pushText operation stack d)) w) ∧
      (Text.IsSingleLine stack → Text.IsSingleLine operation.name →
        (∀ d ∈ r.entries, Text.IsSingleLine d.constructor) →
        r.renderInto operation stack w = (.ok (), w.place
          (w.lines ++ order.map fun d => Code.indent w.depth ++ pushText operation stack d)
          w.scopes))) := by
  intro r
  have h : r.Coherent := coherent_submitAll label ds
  rcases h.resolve_cases with ⟨hpeers, order, hresolve, ho⟩ | ⟨x, peer, hfirst, hresolve⟩
  · refine ⟨⟨fun _ => forall_not_dangles.1 hpeers, fun _ => ⟨order, hresolve⟩⟩, fun e he => ?_,
      fun order' horder => ?_⟩
    · rw [hresolve] at he
      cases he
    · obtain rfl : order = order' := Except.ok.inj (hresolve.symm.trans horder)
      obtain ⟨hbefore, hafter⟩ := ho.before_after h hpeers
      have hrender := (renderInto_ok hresolve operation stack w).trans
        (congrArg _ (emit_pushes operation stack order w))
      refine ⟨ho.perm, ho.phases, hbefore, hafter, hrender, fun hstack hoperation hlines => ?_⟩
      have hline : ∀ d ∈ order, Text.IsSingleLine (pushText operation stack d) := fun d hd =>
        isSingleLine_pushText hstack hoperation (hlines d (ho.perm.mem_iff.1 hd))
      rw [hrender, foldl_write_pushText w hline]
  · refine ⟨⟨?_, fun hpeers => ?_⟩, fun e he => ?_, fun order horder => ?_⟩
    · rintro ⟨order, horder⟩
      rw [hresolve] at horder
      cases horder
    · exact absurd hfirst.1 (forall_not_dangles.2 hpeers x peer)
    · obtain rfl : .unknownPeer x.name peer x.step = e := Except.error.inj (hresolve.symm.trans he)
      exact ⟨⟨x, peer, hfirst, rfl⟩, renderInto_error hresolve operation stack w⟩
    · rw [hresolve] at horder
      cases horder

end Registry

end ClientGen
