import ClientGen.Model.Document
import ClientGen.Proofs.Json.Decoders

/-!
# Parts of a document that are read back

Shapes, operations and services are read again from the form in which they are written. Of a record
this takes two things: every part that was filled was read by its decoder, so the printed part is
read by it too; and a part that is left out when it is written has the value it has when it is
absent.
-/

namespace ClientGen

open Json

variable {σ τ τ' : Type}

/-! ## Fields -/

namespace Decode

variable {name : String} {isOptional : Bool} {d : Decoder τ} {d' : Decoder τ'}

@[simp] theorem fills_field {g : σ → Option τ} {set : σ → τ → σ}
    (h : ∀ s x, g (set s x) = some x) : (field name isOptional g set d).Fills g d := by
  intro depth node s s' hread
  obtain ⟨x, hx, rfl⟩ := map_eq_ok.1 hread
  exact .inr ⟨x, hx, h s x⟩

@[simp] theorem fills_other {g : σ → Option τ} {g' : σ → Option τ'} {set' : σ → τ' → σ}
    (h : ∀ s x, g (set' s x) = g s) : (field name isOptional g' set' d').Fills g d := by
  intro depth node s s' hread
  obtain ⟨x, -, rfl⟩ := map_eq_ok.1 hread
  exact .inl (h s x)

/-- A printed field fills its part of what is read. -/
theorem readEntries_field {form : RecordForm σ τ'} {depth : Nat} {s : σ} {g : σ → Option τ}
    {set : σ → τ → σ} {v : Value} {x : τ} {rest : List (String × Value)}
    (hfind : form.fields.find? (·.name == name) = some (field name isOptional g set d))
    (hset : g s = none) (hread : d depth v.node = .ok x) :
    form.readEntries depth s (Value.entries ((name, v) :: rest)) =
      form.readEntries depth (set s x) (Value.entries rest) := by
  refine RecordForm.readEntries_cons hfind ?_ (map_eq_ok.2 ⟨x, hread, rfl⟩)
  exact Option.isSome_eq_false_iff.2 (Option.isNone_iff_eq_none.2 hset)

theorem isExact_of_mem {fields : List (String × Value)} {v : Value} (name : String)
    (h : (Value.object fields).isExact = true) (hmem : (name, v) ∈ fields) : v.isExact = true :=
  Value.areExactFields_iff.1 h _ hmem

/-! ## Words and identifiers -/

theorem ofText?_text {text : String} {id : ShapeId} (h : ShapeId.ofText? text = some id) :
    ShapeId.ofText? id.text = some id := by
  rw [ShapeId.ofText?] at h
  dsimp only at h
  split at h
  · rename_i hparts
    obtain rfl := Option.some.inj h
    have hns : ∀ c ∈ (ShapeId.split text.toList).1, (c != '#') = true := fun c hc =>
      List.all_eq_true.1 List.all_takeWhile c hc
    have hsplit : ShapeId.split ((ShapeId.split text.toList).1 ++ '#' ::
        (ShapeId.split text.toList).2) = ShapeId.split text.toList := by
      rw [ShapeId.split, List.takeWhile_append_of_pos hns, List.dropWhile_append_of_pos hns]
      simp
    have htext : (ShapeId.text ⟨String.ofList (ShapeId.split text.toList).1,
        String.ofList (ShapeId.split text.toList).2⟩).toList =
          (ShapeId.split text.toList).1 ++ '#' :: (ShapeId.split text.toList).2 := by
      simp [ShapeId.text]
    rw [ShapeId.ofText?, htext, hsplit]
    dsimp only
    rw [if_pos hparts]
  · cases h

theorem rereads_shapeId : Decoder.Rereads shapeId fun id => .string id.text := by
  intro depth node id h _
  obtain ⟨text, -, h⟩ := bind_eq_ok.1 h
  split at h
  · rename_i found hfound
    obtain rfl := Except.ok.inj h
    rw [shapeId, Decoder.string_node, bind_ok, ofText?_text hfound]
    rfl
  · cases h

theorem rereads_word {α : Type} {all : List α} {text : α → String} (h : (all.map text).Nodup) :
    (word all text).Rereads fun a => .string (text a) := by
  refine Variant.rereads ?_ fun v hv => ?_
  · rwa [List.map_map]
  · obtain ⟨a, -, rfl⟩ := List.mem_map.1 hv
    rfl

theorem rereads_primitive : Decoder.Rereads primitive fun p => .string p.text :=
  rereads_word (by decide)

theorem rereads_method : Decoder.Rereads method fun m => .string m.text :=
  rereads_word (by decide)

theorem rereads_protocol : Decoder.Rereads protocol fun p => .string p.text :=
  rereads_word (by decide)

/-! ## Traits -/

theorem printsAs_carrying {tag : String} {make : τ → τ'} {print : τ → Value} {print' : τ' → Value}
    (h : d.Rereads print) (hprint : ∀ x, print' (make x) = .object [(tag, print x)]) :
    (carrying tag make d).PrintsAs print' := by
  intro depth node a ha hexact
  obtain ⟨x, hx, rfl⟩ := map_eq_ok.1 ha
  rw [hprint] at hexact
  have hread := h depth node x hx (isExact_of_mem _ hexact List.mem_cons_self)
  exact ⟨print x, hprint x, map_eq_ok.2 ⟨x, hread, rfl⟩⟩

theorem rereads_trait : Decoder.Rereads trait Trait.toJson := by
  refine Variant.rereads (by decide) ?_
  simp only [List.forall_mem_cons]
  exact ⟨rfl, printsAs_carrying Decoder.rereads_value fun _ => rfl, rfl, rfl,
    printsAs_carrying Decoder.rereads_string fun _ => rfl, rfl,
    printsAs_carrying Decoder.rereads_string fun _ => rfl,
    printsAs_carrying Decoder.rereads_string fun _ => rfl, rfl,
    printsAs_carrying Decoder.rereads_string fun _ => rfl, nofun⟩

theorem isExact_traits {fields : List (String × Value)} {ts : Traits}
    (h : (Value.object (fields ++ ts.field)).isExact = true) :
    (Value.array (ts.map Trait.toJson)).isExact = true := by
  cases ts with
  | nil => rfl
  | cons t ts => exact isExact_of_mem _ h (List.mem_append_right _ List.mem_cons_self)

/-- Traits are read again, whether they are printed or left out because there are none. -/
theorem readEntries_traits {form : RecordForm σ τ'} {depth : Nat} {s : σ}
    {g : σ → Option Traits} {set : σ → Traits → σ} {ts : Traits}
    (hfind : form.fields.find? (·.name == "traits") =
      some (field "traits" true g set (.list trait)))
    (hset : g s = none) (hread : ts ≠ [] →
      Decoder.list trait depth (Value.array (ts.map Trait.toJson)).node = .ok ts) :
    form.readEntries depth s (Value.entries ts.field) =
      .ok (if ts.isEmpty then s else set s ts) := by
  cases ts with
  | nil => rfl
  | cons t ts =>
    have hfield : Traits.field (t :: ts) =
        [("traits", .array ((t :: ts).map Trait.toJson))] := rfl
    rw [hfield, readEntries_field hfind hset (hread nofun)]
    rfl

theorem reread_traits {form : RecordForm σ τ'} {depth : Nat} {s : σ} {g : σ → Option Traits}
    (h : form.Reached depth s) (hstart : g form.start = none)
    (hfields : ∀ f ∈ form.fields, f.Fills g (.list trait))
    (hexact : (Value.array (((g s).getD []).map Trait.toJson)).isExact = true) :
    (g s).getD [] ≠ [] → Decoder.list trait depth
      (Value.array (((g s).getD []).map Trait.toJson)).node = .ok ((g s).getD []) := by
  intro hne
  cases hts : g s with
  | none =>
    rw [hts] at hne
    exact absurd rfl hne
  | some ts =>
    rw [hts] at hexact
    exact h.reread (Decoder.rereads_list rereads_trait) hstart hfields hts hexact

/-! ## Shapes -/

theorem rereads_enumValue : Decoder.Rereads enumValue EnumValue.toJson := by
  refine RecordForm.rereads fun depth s v hs hfinish hexact => ?_
  match s, RecordForm.finish_ok hfinish with
  | (some name, some value), hread =>
    obtain rfl := Option.some.inj hread
    rw [readEntries_field rfl rfl (Decoder.string_node ..),
      readEntries_field rfl rfl (Decoder.string_node ..)]
    rfl

theorem rereads_member : Decoder.Rereads member Member.toJson := by
  refine RecordForm.rereads fun depth s e hs hfinish hexact => ?_
  match s, RecordForm.finish_ok hfinish, hs with
  | (some name, some target, required, traits), hread, hs =>
    obtain rfl := Option.some.inj hread
    -- A name and a flag are read whatever they are; the other parts are read as they were before.
    have htarget : shapeId depth (Value.string target.text).node = .ok target :=
      hs.reread (g := (·.2.1)) rereads_shapeId rfl (by simp) rfl rfl
    have htraits := reread_traits (g := (·.2.2.2)) hs rfl (by simp) (isExact_traits hexact)
    rw [List.cons_append, List.cons_append, readEntries_field rfl rfl (Decoder.string_node ..),
      readEntries_field rfl rfl htarget, List.cons_append,
      readEntries_field rfl rfl (Decoder.bool_node ..), List.nil_append,
      readEntries_traits rfl rfl htraits]
    cases traits with
    | none => rfl
    | some ts => cases ts <;> rfl

theorem printsAs_kindOfOne {tag variant name : String} {make : τ → ShapeKind} {d : Decoder τ}
    {print : τ → Value} (h : d.Rereads print)
    (hprint : ∀ x, (make x).toJson = .object [(tag, .object [(name, print x)])]) :
    (kindOfOne tag variant name make d).PrintsAs ShapeKind.toJson := by
  intro depth node k hk hexact
  obtain ⟨inner, s, rfl, hs, hfinish⟩ := RecordForm.decoder_ok hk
  match s, RecordForm.finish_ok hfinish, hs with
  | some x, hread, hs =>
    obtain rfl := Option.some.inj hread
    rw [hprint] at hexact
    have hinner := isExact_of_mem _ hexact List.mem_cons_self
    have hx : d (inner + 1) (print x).node = .ok x :=
      hs.reread (g := fun s => s) h rfl (by simp) rfl
        (isExact_of_mem _ hinner List.mem_cons_self)
    have hfind : [field name false (fun s : Option τ => s) (fun _ x => some x) d].find?
        (fun f => f.name == name) =
          some (field name false (fun s => s) (fun _ x => some x) d) := by
      rw [List.find?_cons, field, beq_self_eq_true]
    refine ⟨_, hprint x, RecordForm.decoder_node inner ?_⟩
    rw [readEntries_field hfind rfl hx]
    rfl

theorem rereads_kind : Decoder.Rereads kind ShapeKind.toJson := by
  refine Variant.rereads (by decide) ?_
  simp only [List.forall_mem_cons]
  have hmembers := Decoder.rereads_list rereads_member
  refine ⟨printsAs_kindOfOne hmembers fun _ => rfl, printsAs_kindOfOne hmembers fun _ => rfl,
    printsAs_kindOfOne rereads_member fun _ => rfl, printsAs_kindOfOne rereads_member fun _ => rfl,
    ?_, printsAs_carrying rereads_primitive fun _ => rfl,
    printsAs_kindOfOne (Decoder.rereads_list rereads_enumValue) fun _ => rfl, nofun⟩
  -- Only a map carries a record of two fields.
  intro depth node k hk hexact
  obtain ⟨inner, s, rfl, hs, hfinish⟩ := RecordForm.decoder_ok hk
  match s, RecordForm.finish_ok hfinish, hs with
  | (some key, some value), hread, hs =>
    obtain rfl := Option.some.inj hread
    have hinner := isExact_of_mem _ hexact List.mem_cons_self
    have hkey : member (inner + 1) key.toJson.node = .ok key :=
      hs.reread (g := (·.1)) rereads_member rfl (by simp) rfl
        (isExact_of_mem _ hinner List.mem_cons_self)
    have hvalue : member (inner + 1) value.toJson.node = .ok value :=
      hs.reread (g := (·.2)) rereads_member rfl (by simp) rfl
        (isExact_of_mem _ hinner (List.mem_cons_of_mem _ List.mem_cons_self))
    refine ⟨_, rfl, RecordForm.decoder_node inner ?_⟩
    rw [readEntries_field rfl rfl hkey, readEntries_field rfl rfl hvalue]
    rfl

theorem rereads_shape : Decoder.Rereads shape Shape.toJson := by
  refine RecordForm.rereads fun depth s t hs hfinish hexact => ?_
  match s, RecordForm.finish_ok hfinish, hs with
  | (some id, some kind, traits), hread, hs =>
    obtain rfl := Option.some.inj hread
    have hid : shapeId depth (Value.string id.text).node = .ok id :=
      hs.reread (g := (·.1)) rereads_shapeId rfl (by simp) rfl rfl
    have hkind : Decode.kind depth kind.toJson.node = .ok kind :=
      hs.reread (g := (·.2.1)) rereads_kind rfl (by simp) rfl
        (isExact_of_mem "kind" hexact (by simp))
    have htraits := reread_traits (g := (·.2.2)) hs rfl (by simp) (isExact_traits hexact)
    rw [List.cons_append, List.cons_append, readEntries_field rfl rfl hid,
      readEntries_field rfl rfl hkind, List.nil_append, readEntries_traits rfl rfl htraits]
    cases traits with
    | none => rfl
    | some ts => cases ts <;> rfl

/-! ## Operations and services -/

theorem rereads_http : Decoder.Rereads http HttpBinding.toJson := by
  refine RecordForm.rereads fun depth s h hs hfinish hexact => ?_
  match s, RecordForm.finish_ok hfinish, hs with
  | (some method, some uri), hread, hs =>
    obtain rfl := Option.some.inj hread
    have hmethod : Decode.method depth (Value.string method.text).node = .ok method :=
      hs.reread (g := (·.1)) rereads_method rfl (by simp) rfl rfl
    rw [readEntries_field rfl rfl hmethod, readEntries_field rfl rfl (Decoder.string_node ..)]
    rfl

/-- A part that may be null is read again as null if it was left out. -/
theorem reread_nullable {form : RecordForm σ τ'} {depth : Nat} {s : σ}
    {g : σ → Option (Option τ)} {print : τ → Value} (hd : d.Rereads print)
    (hnull : ∀ x, print x ≠ .null) (hstart : g form.start = none)
    (hfields : ∀ f ∈ form.fields, f.Fills g (.optional d)) (h : form.Reached depth s)
    (hexact : (nullable ((g s).join.map print)).isExact = true) :
    Decoder.optional d depth (nullable ((g s).join.map print)).node = .ok (g s).join := by
  cases hget : g s with
  | none => rfl
  | some o =>
    rw [hget] at hexact
    exact h.reread (Decoder.rereads_optional hd hnull) hstart hfields hget hexact

theorem rereads_operation : Decoder.Rereads operation Operation.toJson := by
  refine RecordForm.rereads fun depth s o hs hfinish hexact => ?_
  obtain ⟨id, input, output, http, documentation⟩ := s
  have hread := RecordForm.finish_ok hfinish
  cases id with
  | none => cases hread
  | some id =>
    obtain rfl := Option.some.inj hread
    have hid : shapeId depth (Value.string id.text).node = .ok id :=
      hs.reread (g := (·.1)) rereads_shapeId rfl (by simp) rfl rfl
    have hinput := reread_nullable (g := (·.2.1)) rereads_shapeId nofun rfl (by simp)
      hs (isExact_of_mem "input" hexact (by simp))
    have houtput := reread_nullable (g := (·.2.2.1)) rereads_shapeId nofun rfl (by simp)
      hs (isExact_of_mem "output" hexact (by simp))
    have hhttp := reread_nullable (g := (·.2.2.2.1)) rereads_http nofun rfl (by simp)
      hs (isExact_of_mem "http" hexact (by simp))
    have hdocumentation := reread_nullable (g := (·.2.2.2.2)) Decoder.rereads_string nofun rfl
      (by simp) hs (isExact_of_mem "documentation" hexact (by simp))
    rw [readEntries_field rfl rfl hid, readEntries_field rfl rfl hinput,
      readEntries_field rfl rfl houtput, readEntries_field rfl rfl hhttp,
      readEntries_field rfl rfl hdocumentation]
    rfl

theorem rereads_service : Decoder.Rereads service Service.toJson := by
  refine RecordForm.rereads fun depth s v hs hfinish hexact => ?_
  match s, RecordForm.finish_ok hfinish, hs with
  | (some id, some version, some operations, protocol, documentation), hread, hs =>
    obtain rfl := Option.some.inj hread
    have hid : shapeId depth (Value.string id.text).node = .ok id :=
      hs.reread (g := (·.1)) rereads_shapeId rfl (by simp) rfl rfl
    have hoperations := hs.reread (g := (·.2.2.1)) (Decoder.rereads_list rereads_shapeId) rfl
      (by simp) rfl (isExact_of_mem "operations" hexact (by simp))
    have hprotocol := reread_nullable (g := (·.2.2.2.1)) rereads_protocol nofun rfl (by simp)
      hs (isExact_of_mem "protocol" hexact (by simp))
    have hdocumentation := reread_nullable (g := (·.2.2.2.2)) Decoder.rereads_string nofun rfl
      (by simp) hs (isExact_of_mem "documentation" hexact (by simp))
    rw [readEntries_field rfl rfl hid, readEntries_field rfl rfl (Decoder.string_node ..),
      readEntries_field rfl rfl hoperations, readEntries_field rfl rfl hprotocol,
      readEntries_field rfl rfl hdocumentation]
    rfl

end Decode

end ClientGen
