import ClientGen.Proofs.Codec.Following
import ClientGen.Proofs.Protocol.Faults

/-!
# Where the members of an input go

The statements for a parameter of the query, a header or a payload read the field of one member and
set one part of the request. The body is the payload, or the encoded input without the keys of the
members that are bound.
-/

namespace ClientGen

theorem Carrier.isIn_place {e : Member} {w : Carrier} (hinput : w.isAmong ["input"] = false) :
    w.isIn (Call.place e) = w.isField (Naming.fieldName e.name) := by
  rw [Call.place, isIn_field, isIn_source, isAt_source, hinput, Bool.or_false]
  cases w <;> simp [isAt, isField]

namespace Call

variable {m : Model} {input : Shape} {e : Member} {isKey : Expr → Bool} {w : Carrier}
  {part sent : RequestPart} {rest stmts : List Stmt} {value : Expr} {byRef : Bool}

/-! ## Scalars and lists -/

theorem scalarText_spec {target : ShapeId} {t : ScalarText}
    (h : scalarText m target value byRef = .ok t) :
    (∃ e : Expr, t.text = e.toOwned ∧ ∀ w : Carrier, w.isIn e = w.isIn value) ∧
      ∀ isKey part rest w, part ∈ reachedOfStmts isKey (t.needs ++ rest) w ↔
        part ∈ reachedOfStmts isKey rest w := by
  obtain ⟨s, -, ⟨-, rfl⟩ | ⟨-, rfl⟩ | rfl⟩ := scalarText_cases h
  · refine ⟨⟨_, rfl, fun w => ?_⟩, by simp⟩
    cases byRef <;> simp [Wire.call]
  · refine ⟨⟨_, rfl, fun w => ?_⟩, by simp⟩
    cases byRef <;> simp [Wire.call]
  · exact ⟨⟨_, rfl, fun w => rfl⟩, by simp⟩

theorem isIn_elements {list : Expr} {sparse : Bool} :
    w.isIn (elements list sparse) = w.isIn list := by
  cases sparse <;> simp [elements]

@[simp] theorem mem_reached_addQuery (name : String) :
    part ∈ reachedOfStmts isKey (addQuery name value :: rest) w ↔
      (w.isIn value = true ∧ part = .query name) ∨ part ∈ reachedOfStmts isKey rest w := by
  rw [addQuery, mem_reached_run, mem_sets rfl]

@[simp] theorem mem_reached_setHeader (name : String) :
    part ∈ reachedOfStmts isKey (setHeader name value :: rest) w ↔
      (w.isIn value = true ∧ part = .header name) ∨ part ∈ reachedOfStmts isKey rest w := by
  rw [setHeader, mem_reached_run, mem_sets rfl]

@[simp] theorem mem_reached_setJsonBody :
    part ∈ reachedOfStmts isKey (setJsonBody value :: rest) w ↔
      (w.isIn value = true ∧ part = w.bodyPart) ∨ part ∈ reachedOfStmts isKey rest w := by
  rw [setJsonBody, mem_reached_run, mem_sets rfl, Carrier.isIn_borrow]

/-- No local of a label or of the texts of a list is read. -/
def Quiet (isKey : Expr → Bool) (stmts : List Stmt) : Prop :=
  ∀ x, IsHandle x → ∀ part, part ∉ reachedOfStmts isKey stmts (.local x)

theorem quiet_nil : Quiet isKey [] := fun _ _ _ h => by cases h

def valueRoles : List String := ["query", "header", "present"]

/-- What is followed through the block for the value of a member. -/
def IsInner (e : Member) : Carrier → Prop
  | .field _ | .input => True
  | .local x => IsHandle x ∨ ∃ role ∈ valueRoles, ofRole e role = x
  | .encoded _ => False

theorem IsInner.of_outside (hw : w.IsOutside) : IsInner e w := by
  cases w with
  | field | input => trivial
  | «local» => exact .inl hw
  | encoded => cases hw

theorem IsInner.isAmong {x : String} (hw : IsInner e w) (hhandle : ¬ IsHandle x)
    (hroles : ∀ role ∈ valueRoles, ofRole e role ≠ x) : w.isAmong [x] = false := by
  cases w with
  | field | input => rfl
  | «local» y =>
    have hne : y ≠ x := by
      rcases hw with hw | ⟨role, hrole, rfl⟩
      · exact fun heq => hhandle (heq ▸ hw)
      · exact hroles role hrole
    simpa [Carrier.isAmong] using hne
  | encoded => cases hw

theorem IsInner.isAmong_role {role : String} (hw : IsInner e w) (hlength : 2 ≤ role.toList.length)
    (hhandle : ¬ IsHandle role) (hroles : role ∉ valueRoles) :
    w.isAmong [ofRole e role] = false := by
  refine hw.isAmong ?_ fun role' hrole' heq => ?_
  · rwa [ofRole, isHandle_ofRole hlength]
  · have hsame : role' = role := by simpa [ofRole, toString] using heq
    exact hroles (hsame ▸ hrole')

/-- A value that is there has a name whose last character is one of these. -/
theorem head?_reverse_valueRole {role : String} (hrole : role ∈ valueRoles) :
    (ofRole e role).toList.reverse.head? ∈ [some 'y', some 'r', some 't'] := by
  simp only [valueRoles, List.mem_cons, List.not_mem_nil, or_false] at hrole
  rcases hrole with rfl | rfl | rfl <;> simp [ofRole, toString]

theorem IsInner.isAmong_of_last {x : String} {c : Char} (hw : IsInner e w)
    (hx : x.toList.reverse.head? = some c) (hc : c ∉ ['l', 's', 'y', 'r', 't']) :
    w.isAmong [x] = false := by
  refine hw.isAmong ?_ fun role hrole heq => ?_
  · unfold IsHandle
    cases hlist : x.toList.reverse with
    | nil => simp
    | cons d rest =>
      rw [hlist] at hx
      obtain rfl := Option.some.inj hx
      rintro (h | h) <;> obtain rfl := (List.cons.inj h).1 <;> exact hc (by decide)
  · have hlast := head?_reverse_valueRole (e := e) hrole
    rw [heq, hx] at hlast
    have hcases : c = 'y' ∨ c = 'r' ∨ c = 't' := by simpa using hlast
    rcases hcases with rfl | rfl | rfl <;> exact hc (by decide)

/-- The text of a closure that gives an owned text ends with a parenthesis. -/
theorem IsInner.isAmong_closure (hw : IsInner e w) (front : String) (owned : Expr) :
    w.isAmong [front ++ owned.toOwned.text] = false := by
  have hlast : (front ++ owned.toOwned.text).toList.reverse.head? = some ')' := by
    simp [Expr.toOwned, Expr.text, Expr.texts]
  exact hw.isAmong_of_last hlast (by decide)

theorem IsInner.avoidsTemps (hw : IsInner e w) : AvoidsTemps w := by
  constructor
  · intro p role
    obtain ⟨c, hlast, hdigit⟩ := head?_reverse_temp p role
    refine hw.isAmong_of_last hlast fun hc => ?_
    have hletters : c = 'l' ∨ c = 's' ∨ c = 'y' ∨ c = 'r' ∨ c = 't' := by simpa using hc
    rcases hletters with rfl | rfl | rfl | rfl | rfl <;> cases hdigit
  · refine hw.isAmong (by decide) fun role hrole heq => ?_
    have hlast := head?_reverse_valueRole (e := e) hrole
    rw [heq] at hlast
    revert hlast
    decide

/-- The statements set one part of the request to the value. -/
def Sends (isKey : Expr → Bool) (e : Member) (stmts : List Stmt) (value : Expr)
    (sent : RequestPart) : Prop :=
  ∀ rest, Quiet isKey rest → ∀ w, IsInner e w → ∀ part,
    part ∈ reachedOfStmts isKey (stmts ++ rest) w ↔
      (w.isIn value = true ∧ part = sent) ∨ part ∈ reachedOfStmts isKey rest w

/-- The statements set one part of the request to the field. -/
def Binds (isKey : Expr → Bool) (stmts : List Stmt) (f : String) (sent : RequestPart) : Prop :=
  ∀ rest, Quiet isKey rest → ∀ w : Carrier, w.IsOutside → ∀ part,
    part ∈ reachedOfStmts isKey (stmts ++ rest) w ↔
      (w.isField f = true ∧ part = sent) ∨ part ∈ reachedOfStmts isKey rest w

/-! ## Members by themselves -/

/-- What a member sends is its field, in the block for the value that is there or without one. -/
theorem binds_withMember {role : String} {body : Expr → Bool → Except GenerationError (List Stmt)}
    (hrole : role = "query" ∨ role = "header")
    (hbody : ∀ value byRef inner, Carrier.input.isIn value = false → body value byRef = .ok inner →
      Sends isKey e inner value sent)
    (h : withMember m input e role body = .ok stmts) :
    Binds isKey stmts (Naming.fieldName e.name) sent := by
  intro rest hrest w hw part
  have hinput : w.isAmong ["input"] = false := hw.isAmong (by decide)
  have hname : w.isAmong [ofRole e role] = false := by
    refine hw.isAmong ?_
    rcases hrole with rfl | rfl <;> rw [ofRole, isHandle_ofRole (by decide)] <;> decide
  obtain ⟨symbol, -, h⟩ := bind_eq_ok.1 h
  split at h
  · obtain ⟨inner, hinner, h⟩ := bind_eq_ok.1 h
    obtain rfl := Except.ok.inj h
    have hsends := fun w' hw' => hbody _ _ inner rfl hinner [] quiet_nil w' hw' part
    simp only [List.append_nil] at hsends
    rw [List.singleton_append, mem_reached_ifSome, hsends w (.of_outside hw),
      Carrier.isIn_source, Carrier.isAt_source, hname, Carrier.isIn_place hinput]
    have hthere : w.isField (Naming.fieldName e.name) = true →
        (part ∈ reachedOfStmts isKey inner (w.into (ofRole e role)) ↔ part = sent) := by
      intro hfield
      have hinto : w.into (ofRole e role) = .local (ofRole e role) := by
        cases w <;> first | rfl | cases hfield
      have hinner : IsInner e (.local (ofRole e role)) :=
        .inr ⟨role, by rcases hrole with rfl | rfl <;> decide, rfl⟩
      rw [hinto, hsends _ hinner]
      simp [Carrier.isAt]
    rw [and_congr_right hthere]
    simp
  · have hvalue : Carrier.input.isIn (place e) = false := Carrier.isIn_place rfl
    rw [hbody _ _ _ hvalue h rest hrest w (.of_outside hw), Carrier.isIn_place hinput]

/-- A parameter of the query is set to a scalar, or to the elements of a list one by one. -/
theorem binds_bindQuery {name : String} (h : bindQuery m input e name = .ok stmts) :
    Binds isKey stmts (Naming.fieldName e.name) (.query name) := by
  refine binds_withMember (.inl rfl) (fun value byRef inner _ hinner => ?_) h
  intro rest _ w hw part
  have hitem : w.isAmong [ofRole e "item"] = false :=
    hw.isAmong_role (by decide) (by decide) (by decide)
  obtain ⟨element, -, hinner⟩ := bind_eq_ok.1 hinner
  cases element with
  | none =>
    obtain ⟨t, ht, hinner⟩ := bind_eq_ok.1 hinner
    obtain rfl := Except.ok.inj hinner
    obtain ⟨⟨owned, htext, hvalue⟩, hneeds⟩ := scalarText_spec ht
    rw [List.append_assoc, hneeds, List.singleton_append, mem_reached_addQuery, htext,
      Carrier.isIn_toOwned, hvalue]
  | some pair =>
    obtain ⟨t, ht, hinner⟩ := bind_eq_ok.1 hinner
    obtain rfl := Except.ok.inj hinner
    obtain ⟨⟨owned, htext, hvalue⟩, hneeds⟩ := scalarText_spec ht
    have htext' : ∀ w : Carrier, w.isIn t.text = w.isAmong [ofRole e "item"] := fun w => by
      rw [htext, Carrier.isIn_toOwned, hvalue, Carrier.isIn_source, Carrier.isAt_source]
    rw [List.append_assoc, hneeds, List.singleton_append, mem_reached_forIn, isIn_elements]
    simp [htext', hitem]

/-- A header is set to a scalar, or to the elements of a list together. -/
theorem binds_bindHeader {name : String} (h : bindHeader m input e name = .ok stmts) :
    Binds isKey stmts (Naming.fieldName e.name) (.header name) := by
  refine binds_withMember (.inr rfl) (fun value byRef inner hinput hinner => ?_) h
  intro rest hrest w hw part
  obtain ⟨element, -, hinner⟩ := bind_eq_ok.1 hinner
  cases element with
  | none =>
    obtain ⟨t, ht, hinner⟩ := bind_eq_ok.1 hinner
    obtain rfl := Except.ok.inj hinner
    obtain ⟨⟨owned, htext, hvalue⟩, hneeds⟩ := scalarText_spec ht
    rw [List.append_assoc, hneeds, List.singleton_append, mem_reached_setHeader, htext,
      Carrier.isIn_toOwned, hvalue]
  | some pair =>
    obtain ⟨t, ht, hinner⟩ := bind_eq_ok.1 hinner
    obtain rfl := Except.ok.inj hinner
    obtain ⟨⟨owned, htext, -⟩, hneeds⟩ := scalarText_spec ht
    have hhandle : IsHandle (ofRole e "values") := by
      rw [ofRole, isHandle_ofRole (by decide)]
      decide
    -- The local has the texts until it is bound anew, and nothing reads it behind the header.
    have hbound : ∀ w' : Carrier, part ∈ reachedOfStmts isKey (setHeader name
        (.method (.source (ofRole e "values")) "join" [.literal ", "]) :: rest) w' ↔
        (w'.isAmong [ofRole e "values"] = true ∧ part = .header name) ∨
          part ∈ reachedOfStmts isKey rest w' := fun w' => by
      simp [Carrier.isAt_source]
    have hclosure : ∀ item : String, w.isIn (.source s!"|{item}| {t.text.text}") = false := by
      intro item
      rw [Carrier.isIn_source, Carrier.isAt_source, htext]
      exact hw.isAmong_closure _ owned
    have hrebound : w.isAmong [ofRole e "values"] = true → part ∉ reachedOfStmts isKey rest w := by
      intro hamong
      cases w with
      | field | input => cases hamong
      | «local» x =>
        obtain rfl : ofRole e "values" = x := by simpa [Carrier.isAmong, eq_comm] using hamong
        exact hrest _ hhandle part
      | encoded => cases hw
    have hinto : w.isIn value = true → w.into (ofRole e "values") = .local (ofRole e "values") := by
      intro hvalue
      cases w with
      | field | «local» => rfl
      | input =>
        rw [hinput] at hvalue
        cases hvalue
      | encoded => cases hw
    rw [List.append_assoc, hneeds, List.cons_append, List.singleton_append,
      mem_reached_binding rfl rfl (by rw [Stmt.inside]), hbound, hbound, Stmt.occurrences, ne_eq,
      ← Carrier.isIn_eq_false_iff]
    simp only [Carrier.isIn_method_of_ne _ (show "collect" ≠ "encode" by decide),
      Carrier.isIn_method_of_ne _ (show "map" ≠ "encode" by decide), isIn_elements, List.any_cons,
      List.any_nil, hclosure, Bool.or_false, Bool.not_eq_false]
    have hthere : w.isIn value = true →
        (((w.into (ofRole e "values")).isAmong [ofRole e "values"] = true ∧ part = .header name ∨
          part ∈ reachedOfStmts isKey rest (w.into (ofRole e "values"))) ↔
            part = .header name) := by
      intro hvalue
      rw [hinto hvalue]
      simp [Carrier.isAmong, hrest _ hhandle part]
    rw [and_congr_right hthere]
    cases hamong : w.isAmong [ofRole e "values"] with
    | true => simp [hrebound hamong]
    | false => simp [or_comm]

/-! ## The body -/

theorem mem_reached_assignBody : part ∈ reachedOfStmts isKey
    (.assign (.field (.source "request") "body") value :: rest) w ↔
      (w.isIn value = true ∧ part = w.bodyPart) ∨ part ∈ reachedOfStmts isKey rest w := by
  have htakes : ∀ place : Expr, (Stmt.assign place value).takesFrom isKey w = false := by
    intro place
    cases w <;> simp [Stmt.takesFrom, Stmt.binds, Carrier.isAmong]
  rw [mem_reachedOfStmts_cons, mem_sets rfl, htakes]
  simp [Stmt.inside, Stmt.binds]

inductive PayloadBody (m : Model) (e : Member) (owned reference : Expr) : List Stmt → Prop
  | record : PayloadBody m e owned reference [setJsonBody (owned.method "encode" [])]
  | binary (type : String) : PayloadBody m e owned reference
      [setHeader "Content-Type" (.literal type),
        .assign (.field (.source "request") "body") (owned.method "clone" [])]
  | text (type : String) : PayloadBody m e owned reference
      [setHeader "Content-Type" (.literal type), .assign (.field (.source "request") "body")
        ((owned.method "clone" []).method "into_bytes" [])]
  | encoded {inner : List Stmt} (n : Need) (h : m.encode (CodecPath.ofMember e.name) [] e.target
      reference (ofRole e "wire") = .ok inner) :
      PayloadBody m e owned reference
        (.need n :: (inner ++ [setJsonBody (.source (ofRole e "wire"))]))

theorem ofRole_ofMember (role : String) :
    (CodecPath.ofMember e.name).ofRole role = ofRole e role := by
  simp only [CodecPath.ofRole, CodecPath.ofMember, ofRole]

/-- The payload is written from the value of the member, within a test that it is there if the
member can be absent. -/
theorem bindPayload_cases (h : bindPayload m input e = .ok stmts) :
    (∃ body, PayloadBody m e (Expr.source (ofRole e "present")).deref.group
        (.source (ofRole e "present")) body ∧
      stmts = [.ifLet (.some (ofRole e "present")) (place e).borrow body]) ∨
    PayloadBody m e (place e) (place e).borrow stmts := by
  obtain ⟨target, -, h⟩ := bind_eq_ok.1 h
  obtain ⟨symbol, -, h⟩ := bind_eq_ok.1 h
  -- The same statements stand in the block for the value that is there, or by themselves.
  have hwhole : ∀ owned reference body, PayloadBody m e owned reference body →
      (owned = if symbol.nullable then (Expr.source (ofRole e "present")).deref.group
        else place e) →
      (reference = if symbol.nullable then Expr.source (ofRole e "present")
        else (place e).borrow) →
      (if symbol.nullable = true then
        pure [.ifLet (.some (ofRole e "present")) (place e).borrow body] else pure body) =
          (.ok stmts : Except GenerationError (List Stmt)) →
      (∃ body, PayloadBody m e (Expr.source (ofRole e "present")).deref.group
        (.source (ofRole e "present")) body ∧
        stmts = [.ifLet (.some (ofRole e "present")) (place e).borrow body]) ∨
      PayloadBody m e (place e) (place e).borrow stmts := by
    rintro owned reference body hbody rfl rfl h
    cases hnullable : symbol.nullable with
    | true =>
      rw [hnullable] at hbody h
      exact .inl ⟨body, hbody, (Except.ok.inj h).symm⟩
    | false =>
      rw [hnullable] at hbody h
      obtain rfl := Except.ok.inj h
      exact .inr hbody
  simp only [ofRole_ofMember] at h
  split at h
  · exact hwhole _ _ _ .record rfl rfl h
  · exact hwhole _ _ _ .record rfl rfl h
  · exact hwhole _ _ _ (.binary _) rfl rfl h
  · exact hwhole _ _ _ (.text _) rfl rfl h
  · obtain ⟨inner, hinner, h⟩ := bind_eq_ok.1 h
    exact hwhole _ _ _ (.encoded _ hinner) rfl rfl h

theorem mem_reached_payloadBody {owned reference : Expr} (h : PayloadBody m e owned reference stmts)
    (hw : IsInner e w) (howned : owned ≠ .source "input") (hinput : reference ≠ .source "input")
    (hin : w.isIn owned = w.isIn reference) (hbody : w.isIn owned = true → w.bodyPart = .payload) :
    part ∈ reachedOfStmts isKey stmts w ↔ w.isIn owned = true ∧ part = .payload := by
  have hencode : w.isIn (owned.method "encode" []) = w.isIn owned := by
    have hself : w.isAt (owned.method "encode" []) = false := by
      cases w <;> cases owned <;> simp_all [Carrier.isAt]
    rw [Carrier.isIn_method, hself]
    simp
  have hpart : (w.isIn owned = true ∧ part = w.bodyPart) ↔ w.isIn owned = true ∧ part = .payload :=
    and_congr_right fun h => by rw [hbody h]
  cases h with
  | record =>
    rw [mem_reached_setJsonBody, hencode, hpart, reachedOfStmts_nil, List.mem_nil_iff, or_false]
  | binary | text =>
    rw [mem_reached_setHeader, mem_reached_assignBody, reachedOfStmts_nil]
    simp [hpart]
  | encoded n hinner =>
    have hwire : w.isAmong [ofRole e "wire"] = false :=
      hw.isAmong_role (by decide) (by decide) (by decide)
    rw [mem_reached_need, mem_reached_encode hw.avoidsTemps hinput hinner, ← hin]
    have hthere : w.isIn owned = true → (part ∈ reachedOfStmts isKey
        [setJsonBody (.source (ofRole e "wire"))] (w.into (ofRole e "wire")) ↔
          part = .payload) := by
      intro h
      rw [mem_reached_setJsonBody, Carrier.isIn_source, Carrier.isAt_source, Carrier.bodyPart_into,
        hbody h]
      simp
    rw [and_congr_right hthere]
    simp [Carrier.isAt_source, hwire]

/-- The payload takes the field of its own member only. -/
theorem mem_reached_bindPayload (h : bindPayload m input e = .ok stmts) (hw : w.IsOutside) :
    part ∈ reachedOfStmts isKey stmts w ↔
      w.isField (Naming.fieldName e.name) = true ∧ part = .payload := by
  have hinput : w.isAmong ["input"] = false := hw.isAmong (by decide)
  have hplace := Carrier.isIn_place (e := e) hinput
  have hbody : w.isField (Naming.fieldName e.name) = true → w.bodyPart = .payload := by
    cases w <;> simp [Carrier.isField, Carrier.bodyPart]
  rcases bindPayload_cases h with ⟨body, hpayload, rfl⟩ | hpayload
  · have hpresent : w.isAmong [ofRole e "present"] = false := by
      refine hw.isAmong ?_
      rw [ofRole, isHandle_ofRole (by decide)]
      decide
    have hreached : ∀ w' : Carrier, IsInner e w' → (w'.isAmong [ofRole e "present"] = true →
        w'.bodyPart = .payload) → (part ∈ reachedOfStmts isKey body w' ↔
          w'.isAmong [ofRole e "present"] = true ∧ part = .payload) := by
      intro w' hw' hpart
      have hnames : Expr.source (ofRole e "present") ≠ .source "input" := by
        intro heq
        have hmem : '_' ∈ (ofRole e "present").toList := by simp [ofRole, toString]
        rw [Expr.source.inj heq] at hmem
        exact absurd hmem (by decide)
      have hin : w'.isIn (Expr.source (ofRole e "present")).deref.group =
          w'.isAmong [ofRole e "present"] := by
        simp [Carrier.isAt_source]
      rw [mem_reached_payloadBody hpayload hw' (by simp) hnames (by simp) (by rwa [hin]), hin]
    rw [mem_reached_ifSome, hplace, reachedOfStmts_nil, hpresent,
      hreached w (.of_outside hw) (by simp [hpresent]), hpresent]
    have hthere : w.isField (Naming.fieldName e.name) = true →
        (part ∈ reachedOfStmts isKey body (w.into (ofRole e "present")) ↔ part = .payload) := by
      intro hfield
      have hinto : w.into (ofRole e "present") = .local (ofRole e "present") := by
        cases w <;> first | rfl | cases hfield
      rw [hinto, hreached (.local _) (Or.inr ⟨"present", by decide, rfl⟩) fun _ => rfl]
      simp [Carrier.isAmong]
    rw [and_congr_right hthere]
    simp
  · rw [mem_reached_payloadBody hpayload (.of_outside hw) (by simp [place]) (by simp) (by simp)
      (by rwa [hplace]), hplace]

/-! ## The encoded input -/

theorem isIn_encodedInput (hw : w.IsOutside) : w.isIn encodedInput = true ↔ w = .input := by
  have hinput : w.isAmong ["input"] = false := hw.isAmong (by decide)
  rw [encodedInput, Carrier.isIn_method, Carrier.isIn_source, Carrier.isAt_source, hinput]
  cases w <;> simp [Carrier.isAt]

def removeKeys (input : Shape) (bound : List Member) : Stmt :=
  .ifLet (.variant "serde_json::Value::Object" "fields") (.source "&mut body")
    (bound.map fun e => .run (.method (.source "fields") "remove" [input.keyExpr e]))

/-- Where the key of a member is removed from the encoded body, what is followed ends; all else goes
on. -/
theorem mem_reached_removeKeys {bound : List Member} :
    part ∈ reachedOfStmts isKey (removeKeys input bound :: rest) w ↔
      ¬ (w = .encoded "body" ∧ ∃ b ∈ bound, isKey (input.keyExpr b) = true) ∧
        part ∈ reachedOfStmts isKey rest w := by
  have hnested : ∀ t ∈ (removeKeys input bound).nested, t.requestPart? = none := by
    intro t ht
    rw [removeKeys, Stmt.nested, List.mem_cons] at ht
    rcases ht with rfl | ht
    · rfl
    · induction bound with
      | nil => cases ht
      | cons b bound ih =>
        rcases List.mem_append.1 ht with ht | ht
        · obtain rfl := List.mem_singleton.1 ht
          rfl
        · exact ih ht
  have htakes : (removeKeys input bound).takesFrom isKey w = true ↔
      w = .encoded "body" ∧ ∃ b ∈ bound, isKey (input.keyExpr b) = true := by
    cases w with
    | encoded x =>
      have hname : ("&mut body" == "&mut " ++ x) = (x == "body") := by
        have hbody : "&mut body" = "&mut " ++ "body" := rfl
        rw [hbody, Bool.eq_iff_iff, beq_iff_eq, beq_iff_eq, String.append_right_inj, eq_comm]
      simp [removeKeys, Stmt.takesFrom, hname, List.any_map, Stmt.removes]
    | _ => simp [removeKeys, Stmt.takesFrom, Stmt.binds, Carrier.isAmong]
  have hsets : (removeKeys input bound).sets w = [] := rfl
  have hbinds : (removeKeys input bound).binds = [] := rfl
  rw [mem_reachedOfStmts_cons, hsets, Stmt.inside_eq_nil _ w hnested, hbinds, ← htakes]
  simp

/-- The body is the encoded input, and has the value unless the key of a member that is bound is
removed that is also the key of the value. -/
theorem mem_reached_bindBody {bound : List Member} (hw : w.IsOutside) :
    part ∈ reachedOfStmts isKey (bindBody input bound) w ↔
      w = .input ∧ part = .encoding ∧ bound.length ≠ input.members.length ∧
        ∀ b ∈ bound, isKey (input.keyExpr b) = false := by
  have hread := isIn_encodedInput hw
  unfold bindBody
  split
  · rename_i hall
    simp [hall]
  split
  · rename_i hsome hempty
    obtain rfl := List.isEmpty_iff.1 hempty
    rw [mem_reached_setJsonBody, hread, reachedOfStmts_nil]
    constructor
    · rintro (⟨rfl, rfl⟩ | h)
      · exact ⟨rfl, rfl, hsome, by simp⟩
      · cases h
    · rintro ⟨rfl, rfl, -⟩
      exact .inl ⟨rfl, rfl⟩
  · rename_i hsome hbound
    have hmade : ∀ w' : Carrier, part ∈ reachedOfStmts isKey
        (removeKeys input bound :: [setJsonBody (.source "body")]) w' ↔
        ¬ (w' = .encoded "body" ∧ ∃ b ∈ bound, isKey (input.keyExpr b) = true) ∧
          w'.isAmong ["body"] = true ∧ part = w'.bodyPart := fun w' => by
      rw [mem_reached_removeKeys, mem_reached_setJsonBody, reachedOfStmts_nil, Carrier.isIn_source,
        Carrier.isAt_source]
      simp
    have hbody : w.isAmong ["body"] = false := hw.isAmong (by decide)
    rw [mem_reached_need, mem_reached_binding rfl rfl (by rw [Stmt.inside]), ← removeKeys, hmade,
      hmade, hbody, Stmt.occurrences, ne_eq, ← Carrier.isIn_eq_false_iff, Bool.not_eq_false, hread]
    constructor
    · rintro (⟨-, -, h, -⟩ | ⟨rfl, hkept, -, rfl⟩)
      · cases h
      · refine ⟨rfl, rfl, hsome, fun b hb => Bool.eq_false_iff.2 fun hkey => ?_⟩
        exact hkept ⟨rfl, b, hb, hkey⟩
    · rintro ⟨rfl, rfl, -, hkeys⟩
      refine .inr ⟨rfl, ?_, rfl, rfl⟩
      rintro ⟨-, b, hb, hkey⟩
      rw [hkeys b hb] at hkey
      cases hkey

/-! ## All members -/

/-- The part that a member is written to by itself. -/
def Destination.ownPart? : Destination → Option RequestPart
  | .query name => some (.query name)
  | .header name => some (.header name)
  | .label | .payload | .body => none

theorem mem_reached_bindMember (h : bindMember m input e = .ok stmts) (hrest : Quiet isKey rest)
    (hw : w.IsOutside) : part ∈ reachedOfStmts isKey (stmts ++ rest) w ↔
      (w.isField (Naming.fieldName e.name) = true ∧ (destination e).ownPart? = some part) ∨
        part ∈ reachedOfStmts isKey rest w := by
  unfold bindMember at h
  cases hdestination : destination e with
  | query name =>
    rw [hdestination] at h
    rw [binds_bindQuery h rest hrest w hw, Destination.ownPart?, Option.some.injEq,
      @eq_comm _ (RequestPart.query name)]
  | header name =>
    rw [hdestination] at h
    rw [binds_bindHeader h rest hrest w hw, Destination.ownPart?, Option.some.injEq,
      @eq_comm _ (RequestPart.header name)]
  | label | payload | body =>
    rw [hdestination] at h
    obtain rfl := Except.ok.inj h
    simp [Destination.ownPart?]

/-- The members one after the other, by induction over them: behind each of them the others are
quiet again. -/
theorem mem_reached_bindMembers {members : List Member} {each : List (List Stmt)}
    (h : members.mapM (bindMember m input) = .ok each) (hrest : Quiet isKey rest) :
    Quiet isKey (each.flatten ++ rest) ∧ ∀ w : Carrier, w.IsOutside → ∀ part,
      part ∈ reachedOfStmts isKey (each.flatten ++ rest) w ↔
        (∃ e ∈ members, w.isField (Naming.fieldName e.name) = true ∧
          (destination e).ownPart? = some part) ∨ part ∈ reachedOfStmts isKey rest w := by
  induction members generalizing each with
  | nil =>
    obtain rfl := Except.ok.inj h
    exact ⟨hrest, by simp⟩
  | cons e members ih =>
    rw [List.mapM_cons] at h
    obtain ⟨stmts, hstmts, h⟩ := bind_eq_ok.1 h
    obtain ⟨others, hothers, h⟩ := bind_eq_ok.1 h
    obtain rfl := Except.ok.inj h
    obtain ⟨hquiet, hreached⟩ := ih hothers
    have hall : ∀ w : Carrier, w.IsOutside → ∀ part,
        part ∈ reachedOfStmts isKey ((stmts :: others).flatten ++ rest) w ↔
          (∃ e' ∈ e :: members, w.isField (Naming.fieldName e'.name) = true ∧
            (destination e').ownPart? = some part) ∨ part ∈ reachedOfStmts isKey rest w := by
      intro w hw part
      rw [List.flatten_cons, List.append_assoc, mem_reached_bindMember hstmts hquiet hw,
        hreached w hw part]
      simp [or_assoc]
    refine ⟨fun x hx part hpart => ?_, hall⟩
    rcases (hall (.local x) hx part).1 hpart with ⟨_, -, hfield, -⟩ | hpart
    · cases hfield
    · exact hrest x hx part hpart

def BodyIs (isKey : Expr → Bool) (input : Shape) (w : Carrier) (part : RequestPart) : Prop :=
  match (input.members.filter isPayload).getLast? with
  | some e => w.isField (Naming.fieldName e.name) = true ∧ part = .payload
  | none => w = .input ∧ part = .encoding ∧
    (input.members.filter isBound).length ≠ input.members.length ∧
      ∀ b ∈ input.members.filter isBound, isKey (input.keyExpr b) = false

theorem bodyIs_payload (h : (input.members.filter isPayload).getLast? = some e) :
    BodyIs isKey input w part ↔ w.isField (Naming.fieldName e.name) = true ∧ part = .payload := by
  rw [BodyIs, h]

theorem bodyIs_encoding (h : (input.members.filter isPayload).getLast? = none) :
    BodyIs isKey input w part ↔ w = .input ∧ part = .encoding ∧
      (input.members.filter isBound).length ≠ input.members.length ∧
        ∀ b ∈ input.members.filter isBound, isKey (input.keyExpr b) = false := by
  rw [BodyIs, h]

theorem not_bodyIs_local (x : String) : ¬ BodyIs isKey input (.local x) part := by
  intro h
  cases hlast : (input.members.filter isPayload).getLast? with
  | some e => cases ((bodyIs_payload hlast).1 h).1
  | none => cases ((bodyIs_encoding hlast).1 h).1

/-- The statements for all members write a field into the part of its member, or into the body. -/
theorem mem_reached_bindInput (h : bindInput m input = .ok stmts) (hw : w.IsOutside) :
    part ∈ reachedOfStmts isKey stmts w ↔
      (∃ e ∈ input.members, w.isField (Naming.fieldName e.name) = true ∧
        (destination e).ownPart? = some part) ∨ BodyIs isKey input w part := by
  obtain ⟨each, heach, h⟩ := bind_eq_ok.1 h
  have hbody : ∃ body, stmts = each.flatten ++ body ∧ ∀ w : Carrier, w.IsOutside → ∀ part,
      part ∈ reachedOfStmts isKey body w ↔ BodyIs isKey input w part := by
    split at h
    · rename_i e hlast
      obtain ⟨body, hbody, h⟩ := bind_eq_ok.1 h
      obtain rfl := Except.ok.inj h
      refine ⟨body, rfl, fun w hw part => ?_⟩
      rw [bodyIs_payload hlast, mem_reached_bindPayload hbody hw]
    · rename_i hnone
      obtain rfl := Except.ok.inj h
      refine ⟨_, rfl, fun w hw part => ?_⟩
      rw [bodyIs_encoding hnone, mem_reached_bindBody hw]
  obtain ⟨body, rfl, hreached⟩ := hbody
  have hquiet : Quiet isKey body := fun x hx part hpart =>
    not_bodyIs_local x ((hreached (.local x) hx part).1 hpart)
  rw [(mem_reached_bindMembers heach hquiet).2 w hw part, hreached w hw part]

end Call

end ClientGen
