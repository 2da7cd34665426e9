import ClientGen.Codec.Trail
import ClientGen.Proofs.Code.Writing
import ClientGen.Proofs.Graph.Cycles

/-!
# What is written call by call

The calls that write a block, from its head to its foot, write the statement that the block is. So a
codec that is written call by call is the code of the statements that make it up, at the end of what
the module held before; no block is left open, and the trail is back where it was. For each kind of
collection this follows from the same for what it holds.
-/

namespace ClientGen

/-! ## Collections -/

/-- A codec in writing writes some statements, or fails as they do, and comes back to the trail. -/
def Writes (inner : InnerCodec) (t : CodecTrail) (r : Except GenerationError (List Stmt)) : Prop :=
  ∀ w, inner w = r.map fun stmts => ⟨w.writeStmts stmts, t⟩

theorem writeSkipNull_eq (value : String) (sparse : Bool) (whenNull : Stmt) (w : Writer) :
    writeSkipNull value sparse whenNull w =
      .ok (w.writeStmts [skipNull value (if sparse then [whenNull] else [])]) := by
  cases sparse <;> simp [writeSkipNull, skipNull]

namespace Writes

variable {t : CodecTrail} {s : Shape} {inner : InnerCodec} {r : Except GenerationError (List Stmt)}

theorem error {e : GenerationError} (h : Writes inner t (.error e)) (w : Writer) :
    inner w = .error e := h w

theorem ok {stmts : List Stmt} (h : Writes inner t (.ok stmts)) (w : Writer) :
    inner w = .ok ⟨w.writeStmts stmts, t⟩ := h w

theorem listDecodeLoop (h : Writes inner t.descend r) (sparse : Bool) (array : Expr) :
    Writes (writeListDecodeLoop t sparse array inner) t
      (r.map (listDecodeLoop t.toCodecPath sparse array)) := by
  intro w
  cases r with
  | error e => simp [writeListDecodeLoop, writeSkipNull_eq, h.error, Except.map]
  | ok stmts =>
    simp [writeListDecodeLoop, writeSkipNull_eq, h.ok, ClientGen.listDecodeLoop, Except.map]

theorem listDecode (h : Writes inner t.descend r) (e : Member) (source : Expr) (binding : String) :
    Writes (writeListDecode t s e source binding inner) t
      (r.map (listDecode t.toCodecPath s e source binding)) := by
  intro w
  have hloop := fun array => h.listDecodeLoop s.traits.isSparse array
  unfold writeListDecode
  cases r with
  | error err => cases s.traits.isWrapped <;> simp [(hloop _).error, Except.map]
  | ok stmts =>
    cases hwrapped : s.traits.isWrapped <;>
      simp [(hloop _).ok, ClientGen.listDecode, hwrapped, Except.map]

theorem mapDecodeEntry (h : Writes inner t.descend r) (sparse : Bool) :
    Writes (writeMapDecodeEntry t sparse inner) t
      (r.map (mapDecodeEntry t.toCodecPath sparse)) := by
  intro w
  cases r with
  | error e => simp [writeMapDecodeEntry, writeSkipNull_eq, h.error, Except.map]
  | ok stmts =>
    simp [writeMapDecodeEntry, writeSkipNull_eq, h.ok, ClientGen.mapDecodeEntry, Except.map]

theorem mapDecode (h : Writes inner t.descend r) (m : Model) (k v : Member) (source : Expr)
    (binding : String) : Writes (m.writeMapDecode t s k v source binding inner) t
      (m.keyDecoder t.toCodecPath k.target >>= fun conversion =>
        r.map (mapDecode t.toCodecPath s k v source binding conversion)) := by
  intro w
  have hentry := h.mapDecodeEntry s.traits.isSparse
  unfold Model.writeMapDecode
  cases m.keyDecoder t.toCodecPath k.target with
  | error e => cases s.traits.isWrapped <;> simp [Except.map]
  | ok conversion =>
    cases r with
    | error e => cases s.traits.isWrapped <;> simp [hentry.error, Except.map]
    | ok stmts =>
      cases hwrapped : s.traits.isWrapped <;>
        simp [hentry.ok, ClientGen.mapDecode, hwrapped, Except.map]

theorem listEncode (h : Writes inner t.descend r) (e : Member) (source : Expr) (binding : String) :
    Writes (writeListEncode t s e source binding inner) t
      (r.map (listEncode t.toCodecPath s e source binding)) := by
  intro w
  unfold writeListEncode writeListEncodeElement
  cases r with
  | error e => cases s.traits.isSparse <;> simp [h.error, Except.map]
  | ok stmts =>
    cases hsparse : s.traits.isSparse <;> cases hwrapped : s.traits.isWrapped <;>
      simp [h.ok, ClientGen.listEncode, hsparse, hwrapped, Except.map]

theorem mapEncodeEntry (h : Writes inner t.descend r) (object : String) (key : Expr) :
    Writes (writeMapEncodeEntry t s.traits.isSparse object key inner) t
      (r.map (mapEncodeEntry t.toCodecPath s object key)) := by
  intro w
  unfold writeMapEncodeEntry
  cases r with
  | error e => cases s.traits.isSparse <;> simp [h.error, Except.map]
  | ok stmts =>
    cases hsparse : s.traits.isSparse <;>
      simp [h.ok, ClientGen.mapEncodeEntry, hsparse, Except.map]

theorem mapEncode (h : Writes inner t.descend r) (m : Model) (k v : Member) (source : Expr)
    (binding : String) : Writes (m.writeMapEncode t s k v source binding inner) t
      (m.keyEncoder t.toCodecPath k.target (.source (t.temp "key")) >>= fun keyText =>
        r.map (mapEncode t.toCodecPath s k v source binding keyText)) := by
  intro w
  have hentry := fun object key => h.mapEncodeEntry (s := s) object key
  unfold Model.writeMapEncode
  cases m.keyEncoder t.toCodecPath k.target (.source (t.temp "key")) with
  | error e => simp [Except.map]
  | ok keyText =>
    cases r with
    | error e => cases s.traits.isWrapped <;> simp [(hentry _ _).error, Except.map]
    | ok stmts =>
      cases hwrapped : s.traits.isWrapped <;>
        simp [(hentry _ _).ok, ClientGen.mapEncode, hwrapped, Except.map]

/-- What comes back to the trail into a collection is back outside after leaving it. -/
theorem leave {id : ShapeId} (h : Writes inner (t.enter id) r) (w : Writer) :
    (inner w >>= fun c => .ok { c with trail := c.trail.leave }) =
      r.map fun stmts => ⟨w.writeStmts stmts, t⟩ := by
  cases r with
  | error e => simp [h.error, Except.map]
  | ok stmts => simp [h.ok, Except.map]

end Writes

/-! ## Values -/

namespace Model

variable (m : Model) (t : CodecTrail) (target : ShapeId) (source : Expr) (binding : String)

/-- A decoder that is written call by call is the code of its statements. -/
theorem writes_writeDecode : Writes (fun w => m.writeDecode ⟨w, t⟩ target source binding) t
    (m.decode t.toCodecPath t.visiting target source binding) := by
  induction hn : m.unseen t.visiting using Nat.strongRecOn generalizing t target source binding with
  | ind n ih =>
    intro w
    change m.writeDecode ⟨w, t⟩ target source binding = _
    cases hs : m.shape? target with
    | none =>
      rw [decode, writeDecode, hs]
      rfl
    | some s =>
      have hinner : target ∉ t.visiting → ∀ id source binding,
          Writes (fun w => m.writeDecode ⟨w, (t.enter target).descend⟩ id source binding)
            (t.enter target).descend
            (m.decode t.toCodecPath.deeper (t.visiting ++ [target]) id source binding) := by
        intro hnew id source binding
        exact ih _ (hn ▸ unseen_enter_lt hs hnew) (t.enter target).descend id source binding rfl
      rw [decode, writeDecode, hs]
      dsimp only
      cases s.kind with
      | list e | set e =>
        by_cases hnew : target ∈ t.visiting
        · dsimp only
          rw [dif_pos hnew, dif_pos hnew]
          rfl
        · have hlist := (hinner hnew e.target (.source (t.temp "value"))
            (t.temp "element")).listDecode (s := s) e source binding
          dsimp only
          rw [dif_neg hnew, dif_neg hnew, ← map_eq_bind]
          exact hlist.leave w
      | map k v =>
        by_cases hnew : target ∈ t.visiting
        · dsimp only
          rw [dif_pos hnew, dif_pos hnew]
          rfl
        · have hmap := (hinner hnew v.target (.source (t.temp "value"))
            (t.temp "element")).mapDecode (s := s) m k v source binding
          dsimp only
          rw [dif_neg hnew, dif_neg hnew]
          simp only [← map_eq_bind]
          exact hmap.leave w
      | _ => rfl

/-- An encoder that is written call by call is the code of its statements. -/
theorem writes_writeEncode : Writes (fun w => m.writeEncode ⟨w, t⟩ target source binding) t
    (m.encode t.toCodecPath t.visiting target source binding) := by
  induction hn : m.unseen t.visiting using Nat.strongRecOn generalizing t target source binding with
  | ind n ih =>
    intro w
    change m.writeEncode ⟨w, t⟩ target source binding = _
    cases hs : m.shape? target with
    | none =>
      rw [encode, writeEncode, hs]
      rfl
    | some s =>
      have hinner : target ∉ t.visiting → ∀ id source binding,
          Writes (fun w => m.writeEncode ⟨w, (t.enter target).descend⟩ id source binding)
            (t.enter target).descend
            (m.encode t.toCodecPath.deeper (t.visiting ++ [target]) id source binding) := by
        intro hnew id source binding
        exact ih _ (hn ▸ unseen_enter_lt hs hnew) (t.enter target).descend id source binding rfl
      rw [encode, writeEncode, hs]
      dsimp only
      cases s.kind with
      | list e | set e =>
        by_cases hnew : target ∈ t.visiting
        · dsimp only
          rw [dif_pos hnew, dif_pos hnew]
          rfl
        · have hlist := (hinner hnew e.target (encodeSource t.toCodecPath s)
            (t.temp "element")).listEncode (s := s) e source binding
          dsimp only
          rw [dif_neg hnew, dif_neg hnew, ← map_eq_bind]
          exact hlist.leave w
      | map k v =>
        by_cases hnew : target ∈ t.visiting
        · dsimp only
          rw [dif_pos hnew, dif_pos hnew]
          rfl
        · have hmap := (hinner hnew v.target (encodeSource t.toCodecPath s)
            (t.temp "element")).mapEncode (s := s) m k v source binding
          dsimp only
          rw [dif_neg hnew, dif_neg hnew]
          simp only [← map_eq_bind]
          exact hmap.leave w
      | _ => rfl

end Model

end ClientGen
