import ClientGen.Codec.Record
import ClientGen.Proofs.Symbol.Faults

/-!
# What can be wrong with a codec

In a sound model every value can be decoded and encoded: the keys of maps have a written form, and
the loops for collections end. What is left are the defaults of members.
-/

namespace ClientGen

open GenerationError (IsDefaultFault)

namespace Model

variable {m : Model} {ids : List ShapeId}

/-! ## Keys -/

theorem keyDecoder_ok {key : ShapeId} {s : Shape} (hs : m.shape? key = some s)
    (hkey : s.isKey = true) (p : CodecPath) : ∃ conversion, m.keyDecoder p key = .ok conversion := by
  unfold keyDecoder
  rw [ok_bind (resolveShape_eq_ok.2 hs)]
  unfold Shape.isKey at hkey
  cases hkind : s.kind with
  | primitive prim =>
    rw [hkind] at hkey
    cases prim <;> first | exact ⟨_, rfl⟩ | cases hkey
  | enum values => exact ⟨_, rfl⟩
  | _ => rw [hkind] at hkey; cases hkey

theorem keyEncoder_ok {key : ShapeId} {s : Shape} (hs : m.shape? key = some s) (p : CodecPath)
    (item : Expr) : ∃ text, m.keyEncoder p key item = .ok text := by
  unfold keyEncoder
  rw [ok_bind (resolveShape_eq_ok.2 hs)]
  split <;> exact ⟨_, rfl⟩

/-! ## Values -/

/-- Every shape of a sound model has statements that decode it. -/
theorem decode_ok (h : m.IsSound ids) {id : ShapeId} (hid : id ∈ ids) (p : CodecPath)
    (source : Expr) (binding : String) : ∃ stmts, m.decode p [] id source binding = .ok stmts := by
  refine h.walk_induction (motive := fun path id => ∀ p source binding,
    ∃ stmts, m.decode p path id source binding = .ok stmts) ?_ hid p source binding
  intro path id s hid hnew hs ih p source binding
  rw [decode, hs]
  dsimp only
  split
  case h_1 | h_2 | h_3 | h_4 => exact ⟨_, rfl⟩
  case h_5 e hkind | h_6 e hkind =>
    obtain ⟨inner, hinner⟩ := ih e (by simp [Shape.edges, hkind])
      (by simp [Shape.isCollection, hkind]) p.deeper (.source (p.temp "value")) (p.temp "element")
    rw [dif_neg hnew, ok_bind hinner]
    exact ⟨_, rfl⟩
  case h_7 k v hkind =>
    obtain ⟨key, hkey, hwritten⟩ := h.keys id hid s k v hs hkind
    obtain ⟨conversion, hconversion⟩ := keyDecoder_ok hkey hwritten p
    obtain ⟨inner, hinner⟩ := ih v (by simp [Shape.edges, hkind])
      (by simp [Shape.isCollection, hkind]) p.deeper (.source (p.temp "value")) (p.temp "element")
    rw [dif_neg hnew, ok_bind hconversion, ok_bind hinner]
    exact ⟨_, rfl⟩

/-- Every shape of a sound model has statements that encode it. -/
theorem encode_ok (h : m.IsSound ids) {id : ShapeId} (hid : id ∈ ids) (p : CodecPath)
    (source : Expr) (binding : String) : ∃ stmts, m.encode p [] id source binding = .ok stmts := by
  refine h.walk_induction (motive := fun path id => ∀ p source binding,
    ∃ stmts, m.encode p path id source binding = .ok stmts) ?_ hid p source binding
  intro path id s hid hnew hs ih p source binding
  rw [encode, hs]
  dsimp only
  split
  case h_1 | h_2 | h_3 | h_4 => exact ⟨_, rfl⟩
  case h_5 e hkind | h_6 e hkind =>
    obtain ⟨inner, hinner⟩ := ih e (by simp [Shape.edges, hkind])
      (by simp [Shape.isCollection, hkind]) p.deeper (encodeSource p s) (p.temp "element")
    rw [dif_neg hnew, ok_bind hinner]
    exact ⟨_, rfl⟩
  case h_7 k v hkind =>
    have hk : k ∈ s.edges := by simp [Shape.edges, hkind]
    obtain ⟨key, hkey⟩ := h.defined k.target (h.edges id hid s hs k hk)
    obtain ⟨keyText, hkeyText⟩ := keyEncoder_ok hkey p (.source (p.temp "key"))
    obtain ⟨inner, hinner⟩ := ih v (by simp [Shape.edges, hkind])
      (by simp [Shape.isCollection, hkind]) p.deeper (encodeSource p s) (p.temp "element")
    rw [dif_neg hnew, ok_bind hkeyText, ok_bind hinner]
    exact ⟨_, rfl⟩

/-! ## Members -/

/-- The symbols of some shapes and of their members fail only with such errors. -/
structure SymbolsFailOnly (m : Model) (ids : List ShapeId) (P : GenerationError → Prop) : Prop where
  shape : ∀ id ∈ ids, FailsOnly P (m.symbol modelNamespace id)
  member : ∀ s, m.IsAmong ids s → ∀ e ∈ s.members,
    FailsOnly P (m.memberSymbol modelNamespace s.id e)

theorem IsSound.symbolsFailOnly (h : m.IsSound ids) : m.SymbolsFailOnly ids IsDefaultFault :=
  ⟨fun _ hid => symbol_faults h hid, fun _ hs _ he => memberSymbol_faults h hs he⟩

variable {s : Shape} {P : GenerationError → Prop}

theorem decodeMember_faults (h : m.IsSound ids) (hP : m.SymbolsFailOnly ids P)
    (hs : m.IsAmong ids s) {e : Member} (he : e ∈ s.members) :
    FailsOnly P (m.decodeMember s e) := by
  unfold decodeMember
  refine (hP.member s hs e he).bind fun symbol _ => ?_
  exact FailsOnly.bind (.of_eq_ok (decode_ok h (hs.target h.toIsClosed he) _ _ _))
    fun inner _ => .ok _

theorem encodeMember_faults (h : m.IsSound ids) (hP : m.SymbolsFailOnly ids P)
    (hs : m.IsAmong ids s) {e : Member} (he : e ∈ s.members) :
    FailsOnly P (m.encodeMember s e) := by
  have hencode := fun p source binding =>
    FailsOnly.of_eq_ok (P := P) (encode_ok h (hs.target h.toIsClosed he) p source binding)
  unfold encodeMember
  refine (hP.member s hs e he).bind fun symbol _ => ?_
  dsimp only
  split
  · exact (hencode _ _ _).bind fun inner _ => .ok _
  · exact (hencode _ _ _).bind fun inner _ => .ok _

theorem decodeVariant_faults (h : m.IsSound ids) (hP : m.SymbolsFailOnly ids P)
    (hs : m.IsAmong ids s) {e : Member} (he : e ∈ s.members) :
    FailsOnly P (m.decodeVariant s e) := by
  unfold decodeVariant
  refine (hP.member s hs e he).bind fun symbol _ => ?_
  exact FailsOnly.bind (.of_eq_ok (decode_ok h (hs.target h.toIsClosed he) _ _ _))
    fun inner _ => .ok _

theorem encodeVariant_ok (h : m.IsSound ids) (hs : m.IsAmong ids s) {e : Member}
    (he : e ∈ s.members) : ∃ arm, m.encodeVariant s e = .ok arm := by
  unfold encodeVariant
  obtain ⟨inner, hinner⟩ := encode_ok h (hs.target h.toIsClosed he) _ _ _
  exact ⟨_, ok_bind hinner _⟩

/-! ## Structures and unions -/

/-- The codec of a structure fails only as the symbols of its members do. -/
theorem structureCodec_faults (h : m.IsSound ids) (hP : m.SymbolsFailOnly ids P)
    (hs : m.IsAmong ids s) : FailsOnly P (m.structureCodec s) := by
  have hdecoder : FailsOnly P (m.structureDecoder s) := by
    unfold structureDecoder
    split
    · exact .ok _
    · exact (FailsOnly.mapM fun e he => decodeMember_faults h hP hs he).bind fun decoded _ => .ok _
  have hencoder : FailsOnly P (m.structureEncoder s) := by
    unfold structureEncoder
    split
    · exact .ok _
    · exact (FailsOnly.mapM fun e he => encodeMember_faults h hP hs he).bind fun encoded _ => .ok _
  unfold structureCodec
  exact hdecoder.bind fun decoder _ => hencoder.bind fun encoder _ => .ok _

/-- The codec of a union fails only as the symbols of its members do. -/
theorem unionCodec_faults (h : m.IsSound ids) (hP : m.SymbolsFailOnly ids P)
    (hs : m.IsAmong ids s) : FailsOnly P (m.unionCodec s) := by
  have hdecoder : FailsOnly P (m.unionDecoder s) := by
    unfold unionDecoder
    exact (FailsOnly.mapM fun e he => decodeVariant_faults h hP hs he).bind fun arms _ => .ok _
  have hencoder : FailsOnly P (m.unionEncoder s) := by
    unfold unionEncoder
    refine FailsOnly.bind (.mapM fun e he => ?_) fun arms _ => .ok _
    exact .of_eq_ok (encodeVariant_ok h hs he)
  unfold unionCodec
  exact hdecoder.bind fun decoder _ => hencoder.bind fun encoder _ => .ok _

end Model

end ClientGen
