import ClientGen.Proofs.Json.Values

/-!
# Decoders that read back what is printed

A decoder reads a printed value back if it read the value before, at the same depth: a record that
was written as an array and a tag that was written as an object are read again from the form in
which they are printed.
-/

namespace ClientGen.Json

open Value

variable {α β σ τ : Type}

/-- What the decoder reads, it reads again from the printed value, if this has no doubles. -/
def Decoder.Rereads (d : Decoder α) (print : α → Value) : Prop :=
  ∀ depth node a, d depth node = .ok a → (print a).isExact = true →
    d depth (print a).node = .ok a

namespace Decoder

variable {d : Decoder α} {print : α → Value} {depth inner : Nat} {node : Node}

/-! ## Plain values, options and lists -/

@[simp] theorem string_node (depth : Nat) (s : String) :
    string depth (Value.string s).node = .ok s := by
  rw [Value.node, string, RawText.decode_ofString]

@[simp] theorem bool_node (depth : Nat) (b : Bool) : bool depth (Value.bool b).node = .ok b := by
  rw [Value.node, bool]

theorem rereads_string : string.Rereads .string := fun depth _ s _ _ => string_node depth s

theorem rereads_value : value.Rereads id := fun depth node _ h hexact =>
  isReread_of_toValue depth node h hexact

theorem optional_node {v : Value} (h : v ≠ .null) :
    optional d depth v.node = (d depth v.node).map some := by
  cases v with
  | null => exact absurd rfl h
  | bool | string | array | object => rfl
  | number n => cases n <;> rfl

theorem optional_ok {a : α} (h : optional d depth node = .ok (some a)) : d depth node = .ok a := by
  unfold optional at h
  split at h
  · cases h
  · cases h
  · obtain ⟨b, hb, hsome⟩ := map_eq_ok.1 h
    rw [hb, Option.some.inj hsome]

theorem rereads_optional (h : d.Rereads print) (hnull : ∀ a, print a ≠ .null) :
    (optional d).Rereads fun o => (o.map print).getD .null := by
  intro depth node o ho hexact
  cases o with
  | none => rfl
  | some a =>
    have ha := h depth node a (optional_ok ho) hexact
    change optional d depth (print a).node = _
    rw [optional_node (hnull a), ha]
    rfl

theorem enter_ok {inside : Nat → Except Failure α} {a : α} (h : enter depth inside = .ok a) :
    ∃ inner, depth = inner + 2 ∧ inside (inner + 1) = .ok a := by
  unfold enter at h
  split at h
  · rename_i inner
    exact ⟨inner, rfl, h⟩
  · cases h

theorem list_ok {as : List α} (h : list d depth node = .ok as) :
    ∃ inner, depth = inner + 2 ∧ ∀ a ∈ as, ∃ v, d (inner + 1) v = .ok a := by
  unfold list at h
  split at h
  · obtain ⟨inner, rfl, h⟩ := enter_ok h
    obtain ⟨values, hvalues, h⟩ := bind_eq_ok.1 h
    obtain ⟨-, -, h⟩ := bind_eq_ok.1 h
    obtain rfl := Except.ok.inj h
    refine ⟨inner, rfl, fun a ha => ?_⟩
    obtain ⟨v, -, hv⟩ := exists_of_mem_results hvalues a ha
    exact ⟨v, hv⟩
  · unfold mismatched at h
    split at h <;> cases h

theorem list_node {as : List α} (h : ∀ a ∈ as, d (inner + 1) (print a).node = .ok a) :
    list d (inner + 2) (Value.array (as.map print)).node = .ok as := by
  have hall : (nodes (as.map print)).mapM (d (inner + 1)) = .ok as := by
    have hid := mapM_eq_ok (f := (.ok : α → Except Failure α)) (g := id) (l := as) fun _ _ => rfl
    rw [nodes_eq_map, List.map_map, mapM_map_congr (u := node ∘ print) h, hid, List.map_id]
  rw [Value.node, list, enter, hall]
  rfl

theorem rereads_list (h : d.Rereads print) : (list d).Rereads fun as => .array (as.map print) := by
  intro depth node as has hexact
  obtain ⟨inner, rfl, hread⟩ := list_ok has
  refine list_node fun a ha => ?_
  obtain ⟨v, hv⟩ := hread a ha
  exact h _ v a hv (areExact_iff.1 hexact _ (List.mem_map_of_mem ha))

end Decoder

/-! ## Variants -/

namespace Variant

variable {variants : List (Variant α)} {v : Variant α} {print : α → Value} {depth : Nat}
  {node : Node} {a : α}

/-- How a variant is printed: as its tag, or as an object with what it carries under the tag. -/
def PrintsAs (v : Variant α) (print : α → Value) : Prop :=
  match v.content with
  | .nothing a => print a = .string v.tag
  | .payload d | .record d => ∀ depth node a, d depth node = .ok a → (print a).isExact = true →
    ∃ w, print a = .object [(v.tag, w)] ∧ d depth w.node = .ok a

theorem findVariant_tag (htags : (variants.map (·.tag)).Nodup) (hv : v ∈ variants) :
    findVariant variants v.tag = .ok v := by
  have hfind : variants.find? (·.tag == v.tag) = some v := by
    induction variants with
    | nil => cases hv
    | cons w variants ih =>
      obtain ⟨hw, htags⟩ := List.nodup_cons.1 htags
      rcases List.mem_cons.1 hv with rfl | hv
      · exact List.find?_cons_of_pos (beq_self_eq_true _)
      · have hne : ¬ (w.tag == v.tag) = true := fun heq =>
          hw (List.mem_map.2 ⟨v, hv, (eq_of_beq heq).symm⟩)
        rw [List.find?_cons_of_neg (p := fun x : Variant α => x.tag == v.tag) hne, ih htags hv]
  rw [findVariant, hfind]

theorem mem_of_findVariant {tag : String} (h : findVariant variants tag = .ok v) :
    v ∈ variants := by
  unfold findVariant at h
  split at h
  · rename_i hfind
    obtain rfl := Except.ok.inj h
    exact List.mem_of_find?_eq_some hfind
  · cases h

/-- What was read is one of the variants, its tag alone or with what it carries. -/
theorem variant_ok (h : Decoder.variant variants depth node = .ok a) :
    ∃ v ∈ variants, v.bare = .ok a ∨
      ∃ inner node, depth = inner + 2 ∧ v.carrying (inner + 1) node = .ok a := by
  unfold Decoder.variant at h
  split at h
  · obtain ⟨tag, -, h⟩ := bind_eq_ok.1 h
    obtain ⟨v, hv, h⟩ := bind_eq_ok.1 h
    exact ⟨v, mem_of_findVariant hv, .inl h⟩
  · obtain ⟨inner, rfl, h⟩ := Decoder.enter_ok h
    split at h
    · obtain ⟨tag, -, h⟩ := bind_eq_ok.1 h
      obtain ⟨v, hv, h⟩ := bind_eq_ok.1 h
      obtain ⟨value, hvalue, h⟩ := bind_eq_ok.1 h
      split at h
      · dsimp only at h
        obtain ⟨-, -, h⟩ := bind_eq_ok.1 h
        obtain rfl := Except.ok.inj h
        exact ⟨v, mem_of_findVariant hv, .inr ⟨inner, _, rfl, hvalue⟩⟩
      · cases h
    · unfold mismatched at h
      split at h <;> cases h
    · cases h
    · cases h
  · cases h
  · cases h

theorem variant_string (htags : (variants.map (·.tag)).Nodup) (hv : v ∈ variants)
    (h : v.bare = .ok a) (depth : Nat) :
    Decoder.variant variants depth (Value.string v.tag).node = .ok a := by
  rw [Value.node, Decoder.variant, RawText.decode_ofString, bind_ok, findVariant_tag htags hv,
    bind_ok, h]

theorem variant_object {inner : Nat} {w : Value} (htags : (variants.map (·.tag)).Nodup)
    (hv : v ∈ variants) (h : v.carrying (inner + 1) w.node = .ok a) :
    Decoder.variant variants (inner + 2) (Value.object [(v.tag, w)]).node = .ok a := by
  rw [Value.node, entries, entries, Decoder.variant, enter]
  dsimp only
  rw [RawText.decode_ofString, bind_ok, findVariant_tag htags hv, bind_ok, h]
  rfl

/-- A value of several variants with different tags is read again if each variant is. -/
theorem rereads (htags : (variants.map (·.tag)).Nodup)
    (h : ∀ v ∈ variants, v.PrintsAs print) : (Decoder.variant variants).Rereads print := by
  intro depth node a ha hexact
  obtain ⟨v, hv, hread⟩ := variant_ok ha
  have hprints := h v hv
  unfold PrintsAs at hprints
  cases hcontent : v.content with
  | nothing b =>
    have hbare : v.bare = .ok b := by rw [bare, hcontent]
    -- A tag alone and a tag with null under it are read as the same.
    have hb : b = a := by
      rcases hread with hread | ⟨inner, node, -, hread⟩
      · exact Except.ok.inj (hbare.symm.trans hread)
      · rw [carrying, hcontent] at hread
        obtain ⟨-, -, hread⟩ := bind_eq_ok.1 hread
        exact Except.ok.inj hread
    rw [hcontent] at hprints
    dsimp only at hprints
    rw [← hb, hprints]
    exact variant_string htags hv hbare depth
  | payload d | record d =>
    unfold bare carrying at hread
    rw [hcontent] at hread hprints
    rcases hread with hread | ⟨inner, node, rfl, hread⟩
    · cases hread
    · obtain ⟨w, hprint, hw⟩ := hprints _ node a hread hexact
      rw [hprint]
      refine variant_object htags hv ?_
      unfold carrying
      rw [hcontent]
      exact hw

end Variant

/-! ## Records -/

/-- The field leaves a part of what is read as it is, or fills it by the decoder. -/
def RecordField.Fills (f : RecordField σ) (g : σ → Option τ) (d : Decoder τ) : Prop :=
  ∀ depth node s s', f.read depth node s = .ok s' →
    g s' = g s ∨ ∃ x, d depth node = .ok x ∧ g s' = some x

namespace RecordForm

variable {form : RecordForm σ α} {depth : Nat} {s s' : σ} {a : α}

/-- What can have been read of a record, field by field in any order. -/
inductive Reached (form : RecordForm σ α) (depth : Nat) : σ → Prop
  | start : Reached form depth form.start
  | field {f : RecordField σ} {node : Node} {s s' : σ} (h : Reached form depth s)
      (hf : f ∈ form.fields) (hread : f.read depth node s = .ok s') : Reached form depth s'

theorem reached_readEntries {entries : List (RawText × Node)} (hs : form.Reached depth s)
    (h : form.readEntries depth s entries = .ok s') : form.Reached depth s' := by
  induction entries generalizing s with
  | nil =>
    obtain rfl := Except.ok.inj h
    exact hs
  | cons entry entries ih =>
    obtain ⟨key, node⟩ := entry
    obtain ⟨name, -, h⟩ := bind_eq_ok.1 h
    split at h
    · obtain ⟨-, -, h⟩ := bind_eq_ok.1 h
      exact ih hs h
    · rename_i f hfind
      split at h
      · cases h
      · obtain ⟨next, hread, h⟩ := bind_eq_ok.1 h
        exact ih (hs.field (List.mem_of_find?_eq_some hfind) hread) h

/-- Reading a record from an array fills its fields in their order. -/
theorem reached_readElements {ending : ArrayEnd} {index : Nat} {fields : List (RecordField σ)}
    {elements : List Node} (hfields : ∀ f ∈ fields, f ∈ form.fields) (hs : form.Reached depth s)
    (h : form.readElements depth ending index fields s elements = .ok s') :
    form.Reached depth s' := by
  induction fields generalizing s index elements with
  | nil =>
    obtain ⟨-, -, h⟩ := bind_eq_ok.1 h
    obtain rfl := Except.ok.inj h
    exact hs
  | cons f fields ih =>
    have hrest : ∀ g ∈ fields, g ∈ form.fields := fun g hg => hfields g (List.mem_cons_of_mem _ hg)
    cases elements with
    | cons node elements =>
      obtain ⟨next, hread, h⟩ := bind_eq_ok.1 h
      exact ih hrest (hs.field (hfields f List.mem_cons_self) hread) h
    | nil =>
      -- The array has ended early: what may be absent is skipped.
      rw [readElements] at h
      split at h
      · split at h
        · exact ih hrest hs h
        · cases h
      · obtain ⟨-, -, h⟩ := bind_eq_ok.1 h
        obtain rfl := Except.ok.inj h
        exact hs

/-- A record that was read is what was reached inside one container. -/
theorem decoder_ok {node : Node} (h : form.decoder depth node = .ok a) :
    ∃ inner s, depth = inner + 2 ∧ form.Reached (inner + 1) s ∧ form.finish s = .ok a := by
  unfold decoder at h
  split at h
  · obtain ⟨inner, rfl, h⟩ := Decoder.enter_ok h
    obtain ⟨s, hs, h⟩ := bind_eq_ok.1 h
    obtain ⟨-, -, h⟩ := bind_eq_ok.1 h
    exact ⟨inner, s, rfl, reached_readEntries .start hs, h⟩
  · obtain ⟨inner, rfl, h⟩ := Decoder.enter_ok h
    obtain ⟨s, hs, h⟩ := bind_eq_ok.1 h
    exact ⟨inner, s, rfl, reached_readElements (fun _ hf => hf) .start hs, h⟩
  · unfold mismatched at h
    split at h <;> cases h

theorem decoder_node (inner : Nat) {fields : List (String × Value)}
    (h : form.readEntries (inner + 1) form.start (entries fields) >>= form.finish = .ok a) :
    form.decoder (inner + 2) (Value.object fields).node = .ok a := by
  obtain ⟨s, hs, hfinish⟩ := bind_eq_ok.1 h
  rw [Value.node, decoder, enter, hs, bind_ok]
  exact hfinish

/-- A record is read again if its printed fields are. -/
theorem rereads {fieldsOf : α → List (String × Value)}
    (h : ∀ depth s a, form.Reached depth s → form.finish s = .ok a →
      (Value.object (fieldsOf a)).isExact = true →
      form.readEntries depth form.start (entries (fieldsOf a)) >>= form.finish = .ok a) :
    form.decoder.Rereads fun a => .object (fieldsOf a) := by
  intro depth node a ha hexact
  obtain ⟨inner, s, rfl, hs, hfinish⟩ := decoder_ok ha
  exact decoder_node inner (h _ s a hs hfinish hexact)

/-- A printed field that has not been read before is read, and then the fields behind it. -/
theorem readEntries_cons {f : RecordField σ} {name : String} {v : Value}
    {rest : List (String × Value)} (hfind : form.fields.find? (·.name == name) = some f)
    (hset : f.isSet s = false) (hread : f.read depth v.node s = .ok s') :
    form.readEntries depth s (entries ((name, v) :: rest)) =
      form.readEntries depth s' (entries rest) := by
  rw [entries, readEntries, RawText.decode_ofString, bind_ok, hfind]
  dsimp only
  rw [hset, hread]
  rfl

theorem finish_ok (h : form.finish s = .ok a) : form.finish? s = some a := by
  unfold finish at h
  split at h
  · cases h
  · rename_i hrecord
    rw [hrecord, Except.ok.inj h]
  · cases h

/-- What a part holds was read by its decoder. -/
theorem Reached.exists_read {g : σ → Option τ} {d : Decoder τ} (hstart : g form.start = none)
    (hfields : ∀ f ∈ form.fields, f.Fills g d) (h : form.Reached depth s) {x : τ}
    (hx : g s = some x) : ∃ node, d depth node = .ok x := by
  induction h with
  | start =>
    rw [hstart] at hx
    cases hx
  | field _ hf hread ih =>
    rcases hfields _ hf _ _ _ _ hread with hsame | ⟨y, hy, hset⟩
    · exact ih (hsame ▸ hx)
    · obtain rfl := Option.some.inj (hset.symm.trans hx)
      exact ⟨_, hy⟩

/-- What a part holds is read by its decoder from the printed value. -/
theorem Reached.reread {g : σ → Option τ} {d : Decoder τ} {print : τ → Value}
    (hd : d.Rereads print) (hstart : g form.start = none)
    (hfields : ∀ f ∈ form.fields, f.Fills g d) (h : form.Reached depth s) {x : τ}
    (hx : g s = some x) (hexact : (print x).isExact = true) : d depth (print x).node = .ok x := by
  obtain ⟨node, hnode⟩ := h.exists_read hstart hfields hx
  exact hd depth node x hnode hexact

end RecordForm

end ClientGen.Json
