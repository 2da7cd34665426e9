import ClientGen.Proofs.Codec.AbsentValues
import ClientGen.Proofs.Codec.KeyTables
import ClientGen.Proofs.Protocol.Reach

/-!
# Which members of an input reach the request

A member can only be left out of what is written to a request in three ways: a payload takes the
place of the whole body, a key that is removed is also the key of another member, and the local of a
label is bound anew for a later one. When the request is made, a header that is written for a later
member also replaces one of the same name; what is said here of headers is that the value of their
member is written to them.
-/

namespace ClientGen

namespace Call

variable {m : Model} {input : Shape} {e : Member} {isKey : Expr → Bool} {w : Carrier}
  {part : RequestPart} {stmts : List Stmt}

/-! ## Labels -/

theorem isHandle_labelLocal (name : String) : IsHandle (labelLocal name) := by
  rw [labelLocal, CodecPath.ofRole, isHandle_ofRole (by decide)]
  decide

theorem labelLocal_eq_iff {a b : String} :
    labelLocal a = labelLocal b ↔ Naming.tempStem a = Naming.tempStem b := by
  simp [labelLocal, CodecPath.ofRole, CodecPath.ofMember, toString]

variable {c : Call} {segments : List UriSegment}

theorem isIn_encodeLabel {text : Expr} {greedy : Bool} :
    w.isIn (encodeLabel text greedy) = w.isIn text := by
  cases greedy <;> simp [encodeLabel]

/-- The local of a label is bound to the text of the field of its member. -/
theorem mem_reached_bindLabel {name binding : String} {greedy : Bool}
    (h : bindLabel m c name greedy = .ok (stmts, binding)) (isKey : Expr → Bool) (part : RequestPart)
    (rest : List Stmt) (hw : w.IsOutside) :
    part ∈ reachedOfStmts isKey (stmts ++ rest) w ↔
      (w.isAmong [binding] = false ∧ part ∈ reachedOfStmts isKey rest w) ∨
      (w.isField (Naming.fieldName name) = true ∧
        part ∈ reachedOfStmts isKey rest (.local binding)) := by
  obtain ⟨-, input, e, symbol, t, -, ⟨rfl, -⟩, -, hcases⟩ := bindLabel_cases h
  have hplace := Carrier.isIn_place (e := e) (hw.isAmong (x := "input") (by decide))
  -- Of both forms of a label it is enough that they bind its local and read the field.
  have hmade : ∀ stmt : Stmt, stmt.binds = [binding] → stmt.requestPart? = none →
      stmt.inside isKey w = [] →
      (stmt.occurrences w.found? 0 = [] ↔ w.isField (Naming.fieldName e.name) = false) →
      (part ∈ reachedOfStmts isKey (stmt :: rest) w ↔
        (w.isAmong [binding] = false ∧ part ∈ reachedOfStmts isKey rest w) ∨
        (w.isField (Naming.fieldName e.name) = true ∧
          part ∈ reachedOfStmts isKey rest (.local binding))) := by
    intro stmt hbinds hpart hinside hread
    rw [mem_reached_binding hbinds hpart hinside, ne_eq, hread, Bool.not_eq_false]
    refine or_congr_right (and_congr_right fun hfield => ?_)
    cases w <;> first | rfl | cases hfield
  obtain ⟨-, ht, rfl⟩ | ⟨-, ht, rfl⟩ := hcases
  · obtain ⟨⟨owned, htext, hvalue⟩, hneeds⟩ := scalarText_spec ht
    have htext' : w.isIn t.text = false := by
      rw [htext, Carrier.isIn_toOwned, hvalue, Carrier.isIn_source, Carrier.isAt_source]
      exact hw.isAmong (by decide)
    rw [List.append_assoc, hneeds, List.singleton_append]
    refine hmade _ (by simp only [Stmt.binds, Pattern.names]) rfl
      (by simp [Stmt.inside, reachedOfArms, Arm.inside]) ?_
    simp [Stmt.occurrences, occurrencesOfArms, Arm.occurrences, ← Carrier.isIn_eq_false_iff,
      isIn_encodeLabel, missingLabel, hplace, htext']
  · obtain ⟨⟨owned, htext, hvalue⟩, hneeds⟩ := scalarText_spec ht
    have hpath : (encodeLabel t.text greedy).requestPath? = none := by
      cases greedy <;> rfl
    rw [List.append_assoc, hneeds, List.singleton_append]
    refine hmade _ (by simp only [Stmt.binds]) (by simp [hpath]) (by simp [Stmt.inside]) ?_
    rw [Stmt.occurrences, ← Carrier.isIn_eq_false_iff, isIn_encodeLabel, htext,
      Carrier.isIn_toOwned, hvalue, hplace]

/-- Of the names whose locals are the same, the name is the last. -/
def IsKept (names : List String) (name : String) : Prop :=
  names.reverse.find? (fun other => Naming.tempStem other == Naming.tempStem name) = some name

theorem isKept_cons {first name : String} {names : List String} :
    IsKept (first :: names) name ↔
      (name = first ∧ labelLocal first ∉ names.map labelLocal) ∨ IsKept names name := by
  rw [IsKept, List.reverse_cons, List.find?_append, Option.or_eq_some_iff, ← IsKept]
  rw [or_comm, List.find?_eq_none]
  refine or_congr_left ?_
  constructor
  · rintro ⟨hnew, hfirst⟩
    have hname : first = name := by
      rw [List.find?_singleton] at hfirst
      split at hfirst
      · exact Option.some.inj hfirst
      · cases hfirst
    refine ⟨hname.symm, fun hmem => ?_⟩
    obtain ⟨later, hlater, hsame⟩ := List.mem_map.1 hmem
    refine hnew later (List.mem_reverse.2 hlater) ?_
    rw [← hname, labelLocal_eq_iff.1 hsame]
    exact beq_self_eq_true _
  · rintro ⟨rfl, hnew⟩
    refine ⟨fun later hlater hsame => hnew ?_, by simp⟩
    exact List.mem_map.2 ⟨later, List.mem_reverse.1 hlater, labelLocal_eq_iff.2 (eq_of_beq hsame)⟩

theorem IsKept.mem {name : String} {names : List String} (h : IsKept names name) : name ∈ names :=
  List.mem_reverse.1 (List.mem_of_find?_eq_some h)

/-- The labels one after the other, by induction over them: a field is in the local of its label
until another label takes the local. -/
theorem mem_reached_bindLabels {bindings : List String}
    (h : bindLabels m c segments = .ok (stmts, bindings)) :
    ∀ isKey part rest (w : Carrier), w.IsOutside →
      (part ∈ reachedOfStmts isKey (stmts ++ rest) w ↔
        (w.isAmong bindings = false ∧ part ∈ reachedOfStmts isKey rest w) ∨
        ∃ name, IsKept (labelNames segments) name ∧ w.isField (Naming.fieldName name) = true ∧
          part ∈ reachedOfStmts isKey rest (.local (labelLocal name))) := by
  obtain rfl := bindings_of_bindLabels h
  refine bindLabels_induction (motive := fun names stmts _ => ∀ isKey part rest (w : Carrier),
    w.IsOutside → (part ∈ reachedOfStmts isKey (stmts ++ rest) w ↔
      (w.isAmong (names.map labelLocal) = false ∧ part ∈ reachedOfStmts isKey rest w) ∨
      ∃ name, IsKept names name ∧ w.isField (Naming.fieldName name) = true ∧
        part ∈ reachedOfStmts isKey rest (.local (labelLocal name)))) ?_ ?_ h
  · intro isKey part rest w hw
    have hnone : w.isAmong [] = false := by cases w <;> rfl
    simp [hnone, IsKept]
  · intro name greedy own binding names others bindings' hown hreached isKey part rest w hw
    obtain ⟨rfl, -⟩ := bindLabel_cases hown
    have hfirst : w.isField (Naming.fieldName name) = true →
        (part ∈ reachedOfStmts isKey (others ++ rest) (.local (labelLocal name)) ↔
          labelLocal name ∉ names.map labelLocal ∧
            part ∈ reachedOfStmts isKey rest (.local (labelLocal name))) := by
      intro _
      rw [hreached isKey part rest (.local _) (isHandle_labelLocal _)]
      simp [Carrier.isAmong, Carrier.isField]
    have hamong : w.isAmong ((name :: names).map labelLocal) = false ↔
        w.isAmong [labelLocal name] = false ∧ w.isAmong (names.map labelLocal) = false := by
      cases w <;> simp [Carrier.isAmong]
    have hapart : ∀ f, w.isField f = true → w.isAmong [labelLocal name] = false := by
      cases w <;> simp [Carrier.isField, Carrier.isAmong]
    rw [List.append_assoc, mem_reached_bindLabel hown isKey part _ hw, hreached isKey part rest w hw,
      and_congr_right hfirst, hamong]
    simp only [isKept_cons]
    constructor
    · rintro (⟨hother, ⟨hnone, hpart⟩ | ⟨n, hkept, hpart⟩⟩ | ⟨hfield, hnew, hpart⟩)
      · exact .inl ⟨⟨hother, hnone⟩, hpart⟩
      · exact .inr ⟨n, .inr hkept, hpart⟩
      · exact .inr ⟨_, .inl ⟨rfl, hnew⟩, hfield, hpart⟩
    · rintro (⟨⟨hother, hnone⟩, hpart⟩ | ⟨n, ⟨rfl, hnew⟩ | hkept, hfield, hpart⟩)
      · exact .inl ⟨hother, .inl ⟨hnone, hpart⟩⟩
      · exact .inr ⟨hfield, hnew, hpart⟩
      · exact .inl ⟨hapart _ hfield, .inr ⟨n, hkept, hfield, hpart⟩⟩

/-- The path reads the locals of the labels, and the statements behind them only name what it
needs. -/
theorem path_ok {labels : List Stmt} {path : Expr} (h : c.path m segments = .ok (labels, path)) :
    (∀ w : Carrier, w.isIn path = w.isAmong ((labelNames segments).map labelLocal)) ∧
      ∃ stmts needs, bindLabels m c segments = .ok (stmts, (labelNames segments).map labelLocal) ∧
        labels = stmts ++ needs ∧ ∀ isKey part rest w,
          part ∈ reachedOfStmts isKey (needs ++ rest) w ↔ part ∈ reachedOfStmts isKey rest w := by
  obtain ⟨-, stmts, hbound, hcases⟩ := path_cases h
  obtain ⟨hnone, rfl, rfl⟩ | ⟨-, rfl, rfl⟩ := hcases
  · refine ⟨fun w => ?_, labels, [], hbound, (List.append_nil _).symm, by simp⟩
    rw [hnone]
    cases w <;> simp [Carrier.isAmong]
  · refine ⟨fun w => ?_, stmts, _, hbound, rfl, by simp⟩
    rw [Carrier.isIn_call, List.any_cons, Carrier.isIn_literal, Bool.false_or, List.any_map]
    rw [Bool.eq_iff_iff]
    cases w <;> simp [Carrier.isAmong, Carrier.isAt]

theorem mem_reached_newRequest {mutable : Bool} {method : HttpMethod} {path : Expr} :
    part ∈ reachedOfStmts isKey (newRequest mutable method path :: rest) w ↔
      (w.isIn path = true ∧ part = .path) ∨
        (w.isAmong ["request"] = false ∧ part ∈ reachedOfStmts isKey rest w) := by
  have hpart : (newRequest mutable method path).requestPart? =
      some (fun _ => .path, path) := by cases mutable <;> rfl
  have hinside : (newRequest mutable method path).inside isKey w = [] := by
    cases mutable <;> simp [newRequest, Stmt.inside]
  have htakes : (newRequest mutable method path).takesFrom isKey w = w.isAmong ["request"] := by
    cases mutable <;> cases w <;> rfl
  have hmade : (newRequest mutable method path).isMadeOf w = false := by
    rw [Stmt.isMadeOf, hpart]
    rfl
  rw [mem_reachedOfStmts_cons, mem_sets hpart, hinside, htakes, hmade]
  simp

theorem mem_reached_constants (pairs : List (String × String)) :
    part ∈ reachedOfStmts isKey
      (pairs.map (fun pair => addQuery pair.1 (.literal pair.2)) ++ rest) w ↔
        part ∈ reachedOfStmts isKey rest w := by
  induction pairs with
  | nil => rfl
  | cons pair pairs ih =>
    rw [List.map_cons, List.cons_append, mem_reached_addQuery, Carrier.isIn_literal, ih]
    simp

/-! ## Whole requests -/

def pathSegments (c : Call) : List UriSegment :=
  (UriSegment.ofTemplate (UriTemplate.ofText c.http.uri).path.toList).toOption.getD []

/-- Where the code that makes a request from the input writes what is followed from outside: a field
into the part of its member, the body if the members without a place make one, and into the path the
field of a label whose local is not bound again by a later label. -/
theorem mem_reached_restRequest (h : restRequest m c = .ok stmts) (hinput : c.input = some input) :
    (∀ e ∈ input.members, e.traits.isHttpLabel = true → e.name ∈ labelNames c.pathSegments) ∧
    (∀ name ∈ labelNames c.pathSegments, ∃ e ∈ input.members, e.name = name ∧
      e.traits.isHttpLabel = true) ∧
    ∀ isKey part (w : Carrier), w.IsOutside → (part ∈ reachedOfStmts isKey stmts w ↔
      ((∃ e ∈ input.members, w.isField (Naming.fieldName e.name) = true ∧
        (destination e).ownPart? = some part) ∨ BodyIs isKey input w part) ∨
      ∃ name, IsKept (labelNames c.pathSegments) name ∧
        w.isField (Naming.fieldName name) = true ∧ part = .path) := by
  obtain ⟨segments, hsegments, h⟩ := bind_eq_ok.1 h
  obtain ⟨⟨labels, path⟩, hpath, h⟩ := bind_eq_ok.1 h
  simp only [hinput] at h
  obtain ⟨members, hmembers, h⟩ := bind_eq_ok.1 h
  obtain rfl := Except.ok.inj h
  have hpathSegments : c.pathSegments = segments := by
    unfold pathSegments
    cases hparsed : UriSegment.ofTemplate (UriTemplate.ofText c.http.uri).path.toList with
    | error fault =>
      rw [hparsed] at hsegments
      cases hsegments
    | ok parsed =>
      rw [hparsed] at hsegments
      exact Except.ok.inj hsegments
  obtain ⟨hreads, own, needs, hbound, rfl, hneeds⟩ := path_ok hpath
  have hused := unusedLabel?_eq_none.1 (path_cases hpath).1
  rw [hpathSegments]
  refine ⟨hused input hinput, exists_labelMember hbound hinput, fun isKey part w hw => ?_⟩
  have hrest : ∀ mutable (w : Carrier), w.IsOutside → (part ∈ reachedOfStmts isKey
      (.need (.item "crate::runtime" "Method") :: newRequest mutable c.http.method path ::
        ((UriTemplate.ofText c.http.uri).query.map
          (fun pair => addQuery pair.1 (.literal pair.2)) ++ members)) w ↔
      (w.isAmong ((labelNames segments).map labelLocal) = true ∧ part = .path) ∨
        part ∈ reachedOfStmts isKey members w) := by
    intro mutable w hw
    rw [mem_reached_need, mem_reached_newRequest, hreads, mem_reached_constants,
      hw.isAmong (by decide)]
    simp
  -- A local of a label is read in the path only, not by what is bound behind it.
  have hlocal : ∀ x, IsHandle x → part ∉ reachedOfStmts isKey members (.local x) := by
    intro x hx hpart
    have hout : (Carrier.local x).IsOutside := hx
    rcases (mem_reached_bindInput hmembers hout).1 hpart with ⟨_, -, hfield, -⟩ | hbody
    · cases hfield
    · exact not_bodyIs_local x hbody
  simp only [List.append_assoc, List.cons_append, List.nil_append]
  rw [mem_reached_bindLabels hbound isKey part _ w hw, hneeds, hrest _ w hw,
    ← mem_reached_bindInput hmembers hw]
  refine or_congr ?_ (exists_congr fun name => and_congr_right fun hkept =>
    and_congr_right fun _ => ?_)
  · cases hamong : w.isAmong ((labelNames segments).map labelLocal) with
    | false => simp
    | true =>
      cases w with
      | field | input => cases hamong
      | «local» x => simp [hlocal x hw]
      | encoded => cases hw
  · have hout := isHandle_labelLocal name
    have hread : (Carrier.local (labelLocal name)).isAmong
        ((labelNames segments).map labelLocal) = true := by
      simpa [Carrier.isAmong] using ⟨name, hkept.mem, rfl⟩
    rw [hneeds, hrest _ (.local _) hout, hread]
    simp [hlocal _ hout]

/-- The key on the wire that an expression for a key stands for. -/
def keyName? (input : Shape) (key : Expr) : Option String :=
  match input.keyText? key.toOwned with
  | some (.literal name) => some name
  | _ => none

/-- Whether the expression stands for the key of the member. -/
def isKeyOf (input : Shape) (e : Member) (key : Expr) : Bool :=
  keyName? input key == keyName? input (input.keyExpr e)

/-- The parts of the request that the value of a member is written to, from its field or with the
encoded input. -/
def partsReached (input : Shape) (e : Member) (stmts : List Stmt) : List RequestPart :=
  reachedOfStmts (isKeyOf input e) stmts (.field (Naming.fieldName e.name))
    ++ reachedOfStmts (isKeyOf input e) stmts .input

def Destination.requestPart : Destination → RequestPart
  | .label => .path
  | .query name => .query name
  | .header name => .header name
  | .payload => .payload
  | .body => .encoding

/-- A member is left out: the local of its label is another label's in the end, it is not the last
payload, or it is to go into the body where there is a payload or where its key is removed as that
of a member that is bound. -/
def LeavesOut (c : Call) (input : Shape) (e : Member) : Prop :=
  match destination e with
  | .label => ¬ IsKept (labelNames c.pathSegments) e.name
  | .query _ | .header _ => False
  | .payload => (input.members.filter isPayload).getLast? ≠ some e
  | .body => (∃ p ∈ input.members, isPayload p = true) ∨
      ∃ b ∈ input.members, isBound b = true ∧ isKeyOf input e (input.keyExpr b) = true

theorem destination_of_isHttpLabel (h : e.traits.isHttpLabel = true) : destination e = .label := by
  rw [destination, if_pos h]

theorem isHttpLabel_of_destination (h : destination e = .label) : e.traits.isHttpLabel = true := by
  by_contra hlabel
  rw [destination, if_neg hlabel] at h
  split at h
  · cases h
  · cases h
  · split at h <;> cases h

theorem destination_of_isPayload (h : isPayload e = true) : destination e = .payload := by
  unfold isPayload at h
  split at h
  · assumption
  · cases h

/-- What has the field of a member is written to the part of each member with that field that is not
left out. -/
theorem mem_reached_field (h : restRequest m c = .ok stmts) (hinput : c.input = some input)
    (f : String) : part ∈ reachedOfStmts isKey stmts (.field f) ↔
      ∃ e ∈ input.members, Naming.fieldName e.name = f ∧ destination e ≠ .body ∧
        part = (destination e).requestPart ∧ ¬ c.LeavesOut input e := by
  obtain ⟨hlabels, hmembers, hreached⟩ := mem_reached_restRequest h hinput
  rw [hreached isKey part (.field f) trivial]
  constructor
  · rintro ((⟨e, he, hfield, hpart⟩ | hbody) | ⟨name, hkept, hfield, rfl⟩)
    · refine ⟨e, he, eq_of_beq hfield, ?_⟩
      unfold LeavesOut
      cases hdestination : destination e with
      | query | header =>
        rw [hdestination] at hpart
        obtain rfl := Option.some.inj hpart
        exact ⟨nofun, rfl, not_false⟩
      | label | payload | body =>
        rw [hdestination] at hpart
        cases hpart
    · cases hlast : (input.members.filter isPayload).getLast? with
      | some e =>
        obtain ⟨he, hpayload⟩ := List.mem_filter.1 (List.mem_of_getLast? hlast)
        obtain ⟨hfield, rfl⟩ := (bodyIs_payload hlast).1 hbody
        refine ⟨e, he, eq_of_beq hfield, ?_⟩
        unfold LeavesOut
        rw [destination_of_isPayload hpayload]
        simpa [Destination.requestPart] using hlast
      | none => cases ((bodyIs_encoding hlast).1 hbody).1
    · obtain ⟨e, he, rfl, hlabel⟩ := hmembers name hkept.mem
      refine ⟨e, he, eq_of_beq hfield, ?_⟩
      unfold LeavesOut
      rw [destination_of_isHttpLabel hlabel]
      simpa [Destination.requestPart] using hkept
  · rintro ⟨e, he, rfl, hnot, rfl, hkept⟩
    have hfield : Carrier.isField (Naming.fieldName e.name)
        (.field (Naming.fieldName e.name)) = true := beq_self_eq_true _
    unfold LeavesOut at hkept
    cases hdestination : destination e with
    | label =>
      rw [hdestination, not_not] at hkept
      exact .inr ⟨e.name, hkept, hfield, rfl⟩
    | query | header =>
      exact .inl (.inl ⟨e, he, hfield, by rw [hdestination]; rfl⟩)
    | payload =>
      rw [hdestination, not_not] at hkept
      exact .inl (.inr ((bodyIs_payload hkept).2 ⟨hfield, rfl⟩))
    | body => exact absurd hdestination hnot

/-- The encoded input is written to the body, with the value of each member that goes there and is
not left out. -/
theorem mem_reached_input (h : restRequest m c = .ok stmts) (hinput : c.input = some input)
    (he : e ∈ input.members) : part ∈ reachedOfStmts (isKeyOf input e) stmts .input ↔
      destination e = .body ∧ part = .encoding ∧ ¬ c.LeavesOut input e := by
  obtain ⟨-, -, hreached⟩ := mem_reached_restRequest h hinput
  rw [hreached (isKeyOf input e) part .input trivial]
  have hself : isKeyOf input e (input.keyExpr e) = true := beq_self_eq_true _
  have hnone : (input.members.filter isPayload).getLast? = none ↔
      ∀ p ∈ input.members, isPayload p = false := by
    rw [List.getLast?_eq_none_iff, List.filter_eq_nil_iff]
    exact forall₂_congr fun p _ => by rw [Bool.not_eq_true]
  constructor
  · rintro ((⟨_, -, hfield, -⟩ | hbody) | ⟨_, -, hfield, -⟩)
    · cases hfield
    · cases hlast : (input.members.filter isPayload).getLast? with
      | some p => cases ((bodyIs_payload hlast).1 hbody).1
      | none =>
        obtain ⟨-, rfl, -, hkeys⟩ := (bodyIs_encoding hlast).1 hbody
        have hpayload := hnone.1 hlast
        -- Were it bound, its own key would be among those that are removed.
        have hbound : isBound e = false := by
          by_contra hbound
          have hkey := hkeys e (List.mem_filter.2 ⟨he, by simpa using hbound⟩)
          rw [hself] at hkey
          cases hkey
        have hbody : destination e = .body := by
          have hnot := hpayload e he
          unfold isBound at hbound
          unfold isPayload at hnot
          cases hdestination : destination e with
          | body => rfl
          | payload =>
            rw [hdestination] at hnot
            cases hnot
          | label | query | header =>
            rw [hdestination] at hbound
            cases hbound
        refine ⟨hbody, rfl, ?_⟩
        unfold LeavesOut
        rw [hbody]
        rintro (⟨p, hp, hpayload'⟩ | ⟨b, hb, hbound', hkey⟩)
        · rw [hpayload p hp] at hpayload'
          cases hpayload'
        · rw [hkeys b (List.mem_filter.2 ⟨hb, hbound'⟩)] at hkey
          cases hkey
    · cases hfield
  · rintro ⟨hbody, rfl, hkept⟩
    unfold LeavesOut at hkept
    rw [hbody] at hkept
    have hpayload : ∀ p ∈ input.members, isPayload p = false := fun p hp =>
      Bool.eq_false_iff.2 fun h => hkept (.inl ⟨p, hp, h⟩)
    have hbound : isBound e = false := by
      unfold isBound
      rw [hbody]
    refine .inl (.inr ((bodyIs_encoding (hnone.2 hpayload)).2 ?_))
    refine ⟨rfl, rfl, fun hall => ?_, fun b hb => Bool.eq_false_iff.2 fun hkey => ?_⟩
    · have hbound' := List.length_filter_eq_length_iff.1 hall e he
      rw [hbound] at hbound'
      cases hbound'
    · obtain ⟨hb, hbound'⟩ := List.mem_filter.1 hb
      exact hkept (.inr ⟨b, hb, hbound', hkey⟩)

/-- A request that is bound by traits writes the value of a member to the parts that the members
with its field are for, without those that are left out; so the value of a member that has its field
for itself is written to the one part that it is for, or it is left out and written to none. Each
member that is to go into the path has a label there. -/
theorem mem_partsReached_iff (h : restRequest m c = .ok stmts) (hinput : c.input = some input)
    (he : e ∈ input.members) :
    (destination e = .label → e.name ∈ labelNames c.pathSegments) ∧
    (∀ part, part ∈ partsReached input e stmts ↔ ∃ e' ∈ input.members,
      Naming.fieldName e'.name = Naming.fieldName e.name ∧ (destination e' = .body → e' = e) ∧
        part = (destination e').requestPart ∧ ¬ c.LeavesOut input e') ∧
    ((∀ e' ∈ input.members, Naming.fieldName e'.name = Naming.fieldName e.name → e' = e) →
      ∀ part, part ∈ partsReached input e stmts ↔
        part = (destination e).requestPart ∧ ¬ c.LeavesOut input e) := by
  have hparts : ∀ part, part ∈ partsReached input e stmts ↔ ∃ e' ∈ input.members,
      Naming.fieldName e'.name = Naming.fieldName e.name ∧ (destination e' = .body → e' = e) ∧
        part = (destination e').requestPart ∧ ¬ c.LeavesOut input e' := by
    intro part
    rw [partsReached, List.mem_append, mem_reached_field h hinput, mem_reached_input h hinput he]
    constructor
    · rintro (⟨e', he', hfield, hnot, hpart, hkept⟩ | ⟨hbody, rfl, hkept⟩)
      · exact ⟨e', he', hfield, fun hbody => absurd hbody hnot, hpart, hkept⟩
      · exact ⟨e, he, rfl, fun _ => rfl, by rw [hbody]; rfl, hkept⟩
    · rintro ⟨e', he', hfield, hsame, rfl, hkept⟩
      by_cases hbody : destination e' = .body
      · obtain rfl := hsame hbody
        exact .inr ⟨hbody, by rw [hbody]; rfl, hkept⟩
      · exact .inl ⟨e', he', hfield, hbody, rfl, hkept⟩
  refine ⟨fun hlabel => ?_, hparts, fun hown part => ?_⟩
  · exact (mem_reached_restRequest h hinput).1 e he (isHttpLabel_of_destination hlabel)
  · rw [hparts]
    constructor
    · rintro ⟨e', he', hfield, -, hpart, hkept⟩
      obtain rfl := hown e' he' hfield
      exact ⟨hpart, hkept⟩
    · rintro ⟨hpart, hkept⟩
      exact ⟨e, he, rfl, fun _ => rfl, hpart, hkept⟩

/-! ## Requests without labels -/

/-- The operation of the requests below, which says nothing about its binding. -/
def putOperation (input : Shape) : Operation :=
  ⟨⟨"store", "Put"⟩, some input.id, none, none, none⟩

theorem ofTemplate_put : UriSegment.ofTemplate (UriTemplate.ofText "/Put").path.toList =
    .ok [.literal "/Put".toList] := by
  have hpath : (UriTemplate.ofText "/Put").path.toList = "/Put".toList := by decide
  rw [hpath, UriSegment.ofTemplate]
  rfl

theorem exists_restRequest (m : Model) (input : Shape)
    (hlabels : ∀ e ∈ input.members, e.traits.isHttpLabel = false) {members : List Stmt}
    (hmembers : bindInput m input = .ok members) :
    ∃ stmts, restRequest m ⟨putOperation input, some input⟩ = .ok stmts := by
  have hsegments : (UriSegment.ofTemplate (UriTemplate.ofText "/Put").path.toList).mapError
      (UriSegment.Fault.error (UriTemplate.ofText "/Put").path ⟨"store", "Put"⟩) =
        .ok [.literal "/Put".toList] := by
    rw [ofTemplate_put]
    rfl
  have hunused : unusedLabel? ⟨putOperation input, some input⟩ [.literal "/Put".toList] = none := by
    have hnone : input.members.find? (fun e =>
        e.traits.isHttpLabel && !hasLabel [.literal "/Put".toList] e.name) = none :=
      List.find?_eq_none.2 fun e he => by simp [hlabels e he]
    change (input.members.find? _ >>= fun e => pure (input, e)) = none
    rw [hnone]
    rfl
  have hpath : path m ⟨putOperation input, some input⟩ [.literal "/Put".toList] =
      .ok ([], .literal (String.ofList (UriSegment.literalText [.literal "/Put".toList]))) := by
    rw [path, bindLabels, bindLabels, ok_bind rfl]
    dsimp only
    rw [hunused]
    rfl
  exact ⟨_, (ok_bind hsegments _).trans ((ok_bind hpath _).trans (ok_bind hmembers _))⟩

/-- A note without traits goes into the body. -/
theorem mem_partsReached_iff_note :
    let note : Member := ⟨"note", .prelude "String", false, []⟩
    let input : Shape := ⟨⟨"store", "Item"⟩, .structure [note], []⟩
    let c : Call := ⟨putOperation input, some input⟩
    let m : Model := ⟨.empty, .empty, .empty⟩
    ∃ stmts, restRequest m c = .ok stmts ∧ c.input = some input ∧ note ∈ input.members ∧
      ∀ part, part ∈ partsReached input note stmts ↔ part = .encoding := by
  intro note input c m
  have hmembers : bindInput m input = .ok [setJsonBody encodedInput] := rfl
  obtain ⟨stmts, hstmts⟩ := exists_restRequest m input (by decide) hmembers
  have hnote : note ∈ input.members := List.mem_cons_self
  refine ⟨stmts, hstmts, rfl, hnote, fun part => ?_⟩
  obtain ⟨-, -, hown⟩ := mem_partsReached_iff hstmts rfl hnote
  have hkept : ¬ c.LeavesOut input note := by
    have hbody : destination note = .body := rfl
    rw [LeavesOut, hbody]
    rintro (⟨p, hp, hpayload⟩ | ⟨b, hb, hbound, -⟩)
    · obtain rfl := List.mem_singleton.1 hp
      cases hpayload
    · obtain rfl := List.mem_singleton.1 hb
      cases hbound
  rw [hown fun e he _ => List.mem_singleton.1 he]
  exact and_iff_left hkept

/-- Where a member is the payload, a note without traits reaches no part of the request. -/
theorem not_mem_partsReached_note :
    let text : Shape := .ofPrimitive .string
    let note : Member := ⟨"note", text.id, false, []⟩
    let data : Member := ⟨"data", text.id, false, [.httpPayload]⟩
    let input : Shape := ⟨⟨"store", "Item"⟩, .structure [note, data], []⟩
    let c : Call := ⟨putOperation input, some input⟩
    let m : Model := ⟨⟨[text, input], by decide⟩, .empty, .empty⟩
    ∃ stmts, restRequest m c = .ok stmts ∧ c.input = some input ∧ note ∈ input.members ∧
      ∀ part, part ∉ partsReached input note stmts := by
  intro text note data input c m
  have htext : m.shape? text.id = some text := by decide
  have hinput : m.shape? input.id = some input := by decide
  have htarget : m.symbol modelNamespace text.id = .ok Primitive.string.symbol :=
    (Model.symbol_shape htext).trans rfl
  have hsymbol := Model.memberSymbol_of_leaves (e := data) hinput rfl (by decide) htarget rfl
  have hpayload : ∃ body, bindPayload m input data = .ok body := by
    rw [bindPayload, ok_bind (Model.resolveShape_eq_ok.2 htext), ok_bind hsymbol]
    exact ⟨_, rfl⟩
  obtain ⟨body, hbody⟩ := hpayload
  have heach : input.members.mapM (bindMember m input) = .ok [[], []] := rfl
  have hmembers : bindInput m input = .ok body :=
    (ok_bind heach _).trans ((ok_bind hbody _).trans rfl)
  obtain ⟨stmts, hstmts⟩ := exists_restRequest m input (by decide) hmembers
  have hnote : note ∈ input.members := List.mem_cons_self
  refine ⟨stmts, hstmts, rfl, hnote, fun part hpart => ?_⟩
  have hfields : Naming.fieldName "data" ≠ Naming.fieldName "note" := by decide +kernel
  rcases List.mem_append.1 hpart with hpart | hpart
  · obtain ⟨e, he, hfield, hdestination, -⟩ := (mem_reached_field hstmts rfl _).1 hpart
    rcases List.mem_cons.1 he with rfl | he
    · exact hdestination rfl
    · obtain rfl := List.mem_singleton.1 he
      exact hfields hfield
  · obtain ⟨-, -, hkept⟩ := (mem_reached_input hstmts rfl hnote).1 hpart
    exact hkept (.inl ⟨data, List.mem_cons_of_mem _ List.mem_cons_self, rfl⟩)

end Call

end ClientGen
