import ClientGen.Proofs.Codec.Calls
import ClientGen.Proofs.Codec.Locals
import ClientGen.Proofs.Protocol.Faults
import ClientGen.Proofs.Symbol.TypeNames

/-!
# Which functions the binding of a request calls

The members of an input are bound by common functions and by the helpers of their targets. Where a
header has several values, the helper is called by a closure. The parameter of the closure is a
local, and a local has no blank in it; so the text of the closure says which function it applies.
-/

namespace ClientGen

/-! ## Locals have no blanks -/

namespace Naming

theorem isMark_blank : Unicode.IsMark ' ' := ⟨by decide, by decide⟩

/-- Letter case brings no mark into a word, and a separator ends one. -/
theorem mem_of_mem_snakeCase {b : Char} (hb : Unicode.IsMark b) {name : String}
    (h : b ∈ (snakeCase name).toList) : b ∈ name.toList ∧ isSeparator b = false := by
  rcases mem_snakeCase h with rfl | ⟨word, hword, h⟩
  · exact absurd hb.lt (by decide)
  · exact of_mem_splitWords hword (hb.mem_of_mem_lowercaseAfter h)

theorem blank_not_mem_snakeCase (name : String) : ' ' ∉ (snakeCase name).toList := fun h =>
  absurd (mem_of_mem_snakeCase isMark_blank h).2 (by decide)

theorem blank_not_mem_tempStem (name : String) : ' ' ∉ (tempStem name).toList := by
  have hsnake := blank_not_mem_snakeCase name
  unfold tempStem
  dsimp only
  split
  · decide
  · split
    · rw [String.toList_append, List.mem_append]
      exact not_or.2 ⟨by decide, hsnake⟩
    · exact hsnake

end Naming

/-! ## Closures -/

/-- What begins behind some text is found in what follows the text. -/
theorem mem_of_append_eq {α : Type} {front tail k r : List α} {c : α}
    (h : front ++ tail = k ++ c :: r) (hlen : front.length ≤ k.length) : c ∈ tail := by
  rcases List.append_eq_append_iff.1 h with ⟨behind, -, htail⟩ | ⟨more, hfront, htail⟩
  · simp [htail]
  · have hmore : more = [] := by
      have hlength := congrArg List.length hfront
      rw [List.length_append] at hlength
      exact List.length_eq_zero_iff.1 (by omega)
    rw [hmore, List.nil_append] at htail
    exact htail ▸ List.mem_cons_self

/-- Without other blanks, a closure has one parameter and one body. -/
theorem closure_inj {x y body body' : List Char} (hx : ' ' ∉ x) (hbody : ' ' ∉ body)
    (h : '|' :: (x ++ '|' :: ' ' :: body) = '|' :: (y ++ '|' :: ' ' :: body')) :
    x = y ∧ body = body' := by
  have hy : ' ' ∉ y ++ ['|'] := by
    have hcount := congrArg (List.count ' ') h
    have hbar : ('|' == ' ') = false := by decide
    simp only [List.count_cons, List.count_append, List.count_eq_zero.2 hx,
      List.count_eq_zero.2 hbody, hbar, beq_self_eq_true, if_true, Bool.false_eq_true,
      if_false] at hcount
    have hzero : List.count ' ' y = 0 := by omega
    simpa using List.count_eq_zero.1 hzero
  have hsplit : x ++ ['|'] ++ ' ' :: body = y ++ ['|'] ++ ' ' :: body' := by
    simpa using h
  obtain ⟨hfront, hback⟩ := split_inj (by simpa using hx) hy hsplit
  exact ⟨List.append_cancel_right hfront, hback⟩

/-- A function that is applied to a local, without a parenthesis in its name, is the only one that
the text can be read as an application of, if what follows has not the last letter of the local. -/
theorem function_inj {stem f g tail rest : List Char} {last : Char}
    (hlast : last ≠ ')') (hg : '(' ∉ g) (htail : last ∉ tail)
    (h : g ++ '(' :: (stem ++ last :: ')' :: tail) = f ++ '(' :: (stem ++ last :: ')' :: rest)) :
    f = g := by
  rcases List.append_eq_append_iff.1 h with ⟨behind, rfl, hbehind⟩ | ⟨more, rfl, hmore⟩
  · cases behind with
    | nil => exact List.append_nil g
    | cons c behind =>
      obtain ⟨-, hlater⟩ := List.cons.inj hbehind
      -- A second application of the function would stand behind the first one.
      have hsecond : (stem ++ [last]) ++ ')' :: tail =
          (behind ++ '(' :: stem) ++ last :: ')' :: rest := by
        simpa using hlater
      rcases List.mem_cons.1 (mem_of_append_eq hsecond (by simp)) with heq | hmem
      · exact absurd heq hlast
      · exact absurd hmem htail
  · cases more with
    | nil => exact (List.append_nil f).symm
    | cons c more =>
      obtain ⟨rfl, -⟩ := List.cons.inj hmore
      exact absurd (List.mem_append_right f List.mem_cons_self) hg

namespace Call

variable {m : Model} {ids : List ShapeId} {e : Member} {f x rest : String}

theorem toList_ofRole (e : Member) (role : String) :
    (ofRole e role).toList = (Naming.tempStem e.name).toList ++ '_' :: role.toList := by
  simp [ofRole, toString]

/-- The parameter of a closure over the elements of a member. -/
abbrev itemLocal (e : Member) : String := ofRole e "item"

/-- The parameter without its last letter. -/
def itemStem (e : Member) : List Char := (Naming.tempStem e.name).toList ++ ['_', 'i', 't', 'e']

theorem toList_item (e : Member) : (itemLocal e).toList = itemStem e ++ ['m'] := by
  rw [toList_ofRole, itemStem, List.append_assoc]
  rfl

theorem blank_not_mem_item (e : Member) : ' ' ∉ (itemLocal e).toList := by
  rw [toList_ofRole, List.mem_append]
  exact not_or.2 ⟨Naming.blank_not_mem_tempStem e.name, by decide⟩

/-- The body of a closure without blanks is an application to the local of the elements. -/
theorem body_of_closure {body : String} (hbody : ' ' ∉ body.toList)
    (h : s!"|{itemLocal e}| {body}" = s!"|{x}| {f}({x}){rest}") :
    body.toList = f.toList ++ '(' :: (itemStem e ++ 'm' :: ')' :: rest.toList) := by
  have hlist : '|' :: ((itemLocal e).toList ++ '|' :: ' ' :: body.toList) =
      '|' :: (x.toList ++ '|' :: ' ' ::
        (f.toList ++ '(' :: (x.toList ++ ')' :: rest.toList))) := by
    simpa [toString] using congrArg String.toList h
  obtain ⟨hx, hbody⟩ := closure_inj (blank_not_mem_item e) hbody hlist
  rw [hbody, ← hx, toList_item, List.append_assoc]
  rfl

/-- A closure that applies a function applies no other. -/
theorem eq_of_closure {text : String} (g tail : String) (hg : '(' ∉ g.toList)
    (htail : 'm' ∉ tail.toList) (hblank : ' ' ∉ g.toList ∧ ' ' ∉ tail.toList)
    (htext : text.toList = g.toList ++ '(' :: ((itemLocal e).toList ++ ')' :: tail.toList))
    (h : s!"|{itemLocal e}| {text}" = s!"|{x}| {f}({x}){rest}") : f = g := by
  have hbody : ' ' ∉ text.toList := by
    have hitem := blank_not_mem_item e
    rw [htext]
    simp only [List.mem_append, List.mem_cons, not_or]
    exact ⟨hblank.1, by decide, hitem, by decide, hblank.2⟩
  have happlied : g.toList ++ '(' :: (itemStem e ++ 'm' :: ')' :: tail.toList) =
      f.toList ++ '(' :: (itemStem e ++ 'm' :: ')' :: rest.toList) := by
    rw [← body_of_closure hbody h, htext, toList_item, List.append_assoc]
    rfl
  exact String.toList_inj.1 (function_inj (by decide) hg htail happlied)

/-- A closure that turns its parameter into a text applies no function. -/
theorem not_closure {text : String} (tail : String) (htail : 'm' ∉ tail.toList)
    (hblank : ' ' ∉ tail.toList) (htext : text.toList = (itemLocal e).toList ++ tail.toList) :
    s!"|{itemLocal e}| {text}" ≠ s!"|{x}| {f}({x}){rest}" := by
  intro h
  have hbody : ' ' ∉ text.toList := by
    rw [htext, List.mem_append]
    exact not_or.2 ⟨blank_not_mem_item e, hblank⟩
  have hlist : (itemStem e ++ ['m']) ++ tail.toList =
      (f.toList ++ '(' :: itemStem e) ++ 'm' :: ')' :: rest.toList := by
    rw [← toList_item, ← htext, body_of_closure hbody h, List.append_assoc]
    rfl
  exact absurd (mem_of_append_eq hlist (by simp)) htail

/-! ## Scalars -/

theorem keepsTo_scalarText {target : ShapeId} {value : Expr} {byRef : Bool} {t : ScalarText}
    (htarget : target ∈ ids) (hvalue : value.KeepsTo (m.MayCall ids))
    (h : scalarText m target value byRef = .ok t) :
    StmtsKeepTo (m.MayCall ids) t.needs ∧ t.text.KeepsTo (m.MayCall ids) := by
  obtain ⟨s, hs, hcases⟩ := scalarText_cases h
  have hamong := Model.isAmong_of_shape? htarget hs
  have hreference : (if byRef then value else value.borrow).KeepsTo (m.MayCall ids) := by
    split
    · exact hvalue
    · exact (Expr.keepsTo_borrow value).2 hvalue
  obtain ⟨-, rfl⟩ | ⟨hkind, rfl⟩ | rfl := hcases
  · simp (disch := decide) [StmtsKeepTo, Stmt.KeepsTo, Need.IsItem, Wire.call, hreference]
  · have hblob : m.MayCall ids "wire::encode_blob" :=
      hamong.mayCall (by simp [Shape.functions, hkind])
    simp (disch := decide) [StmtsKeepTo, Stmt.KeepsTo, Need.IsItem, Wire.call, Expr.keepsTo_method,
      hreference, hblob]
  · simp [StmtsKeepTo, hvalue]

/-- The closure for the elements of a header applies a function of their shape, or a common one. -/
theorem mayCall_of_closure {target : ShapeId} {t : ScalarText} (htarget : target ∈ ids)
    (h : scalarText m target (.source (itemLocal e)) true = .ok t)
    (hclosure : s!"|{itemLocal e}| {t.text.text}" = s!"|{x}| {f}({x}){rest}") :
    m.MayCall ids f := by
  obtain ⟨s, hs, ⟨-, rfl⟩ | ⟨hkind, rfl⟩ | rfl⟩ := scalarText_cases h
  · obtain rfl := eq_of_closure "wire::encode_timestamp" ".to_string()" (by decide) (by decide)
      (by decide) (by simp [Expr.text, Expr.texts, Wire.call, Expr.toOwned]) hclosure
    exact Model.mayCall_of_common (by decide)
  · obtain rfl := eq_of_closure "wire::encode_blob" ".as_str().unwrap_or_default().to_string()"
      (by decide) (by decide) (by decide)
      (by simp [Expr.text, Expr.texts, Wire.call, Expr.toOwned]) hclosure
    exact (Model.isAmong_of_shape? htarget hs).mayCall (by simp [Shape.functions, hkind])
  · exact absurd hclosure (not_closure ".to_string()" (by decide) (by decide)
      (by simp [Expr.text, Expr.texts, Expr.toOwned]))

/-- The element of a list is one that the list leads to. -/
theorem listElement?_target (h : m.IsClosed ids) {target : ShapeId} (htarget : target ∈ ids)
    {element : Member} {sparse : Bool}
    (hlist : listElement? m target = .ok (some (element, sparse))) : element.target ∈ ids := by
  obtain ⟨s, hs, hlist⟩ := bind_eq_ok.1 hlist
  refine h.edges target htarget s (Model.resolveShape_eq_ok.1 hs) element ?_
  split at hlist
  case h_1 e hkind | h_2 e hkind =>
    cases hlist
    simp [Shape.edges, hkind]
  case h_3 => cases hlist

theorem keepsTo_elements {list : Expr} {sparse : Bool} (hlist : list.KeepsTo (m.MayCall ids)) :
    (elements list sparse).KeepsTo (m.MayCall ids) := by
  cases sparse <;> simp (disch := decide) [elements, Expr.keepsTo_method, hlist]

/-! ## Labels -/

theorem keepsTo_encodeLabel {text : Expr} (htext : text.KeepsTo (m.MayCall ids)) (greedy : Bool) :
    (encodeLabel text greedy).KeepsTo (m.MayCall ids) := by
  cases greedy <;> simp (disch := decide) [encodeLabel, Expr.keepsTo_method, htext]

theorem keepsTo_bindLabel (h : m.IsClosed ids) {c : Call} (hc : c.HasInputIn m ids) {name : String}
    {greedy : Bool} {stmts : List Stmt} {binding : String}
    (hbind : bindLabel m c name greedy = .ok (stmts, binding)) :
    StmtsKeepTo (m.MayCall ids) stmts := by
  obtain ⟨-, input, e, symbol, t, hinput, he, -, hcases⟩ := bindLabel_cases hbind
  have htarget : e.target ∈ ids := (hc input hinput).target h he.mem
  obtain ⟨-, ht, rfl⟩ | ⟨-, ht, rfl⟩ := hcases
  all_goals
    obtain ⟨hneeds, htext⟩ := keepsTo_scalarText htarget (by simp [place]) ht
    simp (disch := decide) [StmtsKeepTo, Stmt.KeepsTo, ArmsKeepTo, Arm.KeepsTo, place, missingLabel,
      hneeds, keepsTo_encodeLabel htext]

theorem keepsTo_bindLabels (h : m.IsClosed ids) {c : Call} (hc : c.HasInputIn m ids)
    {segments : List UriSegment} {stmts : List Stmt} {bindings : List String}
    (hbind : bindLabels m c segments = .ok (stmts, bindings)) :
    StmtsKeepTo (m.MayCall ids) stmts := by
  refine bindLabels_induction (motive := fun _ stmts _ => StmtsKeepTo (m.MayCall ids) stmts)
    trivial (fun hown hothers => ?_) hbind
  exact stmtsKeepTo_append.2 ⟨keepsTo_bindLabel h hc hown, hothers⟩

theorem keepsTo_path (h : m.IsClosed ids) {c : Call} (hc : c.HasInputIn m ids)
    {segments : List UriSegment} {stmts : List Stmt} {e : Expr}
    (hpath : path m c segments = .ok (stmts, e)) :
    StmtsKeepTo (m.MayCall ids) stmts ∧ e.KeepsTo (m.MayCall ids) := by
  obtain ⟨-, labels, hlabels, hcases⟩ := path_cases hpath
  have hkeeps := keepsTo_bindLabels h hc hlabels
  obtain ⟨-, rfl, rfl⟩ | ⟨-, rfl, rfl⟩ := hcases
  · exact ⟨hkeeps, Expr.keepsTo_literal⟩
  · simp (disch := decide) [StmtsKeepTo, Stmt.KeepsTo, Need.IsItem, hkeeps]

/-! ## Members -/

variable {input : Shape} {stmts : List Stmt}

theorem keepsTo_withMember {role : String} {body : Expr → Bool → Except GenerationError (List Stmt)}
    (hbody : ∀ value byRef stmts, value.KeepsTo (m.MayCall ids) → body value byRef = .ok stmts →
      StmtsKeepTo (m.MayCall ids) stmts)
    (h : withMember m input e role body = .ok stmts) : StmtsKeepTo (m.MayCall ids) stmts := by
  obtain ⟨symbol, -, h⟩ := bind_eq_ok.1 h
  split at h
  · obtain ⟨inner, hinner, h⟩ := bind_eq_ok.1 h
    obtain rfl := Except.ok.inj h
    have hkeeps := hbody _ _ _ Expr.keepsTo_source hinner
    simp [StmtsKeepTo, Stmt.KeepsTo, place, hkeeps]
  · exact hbody _ _ _ (by simp [place]) h

theorem keepsTo_bindQuery (h : m.IsClosed ids) (hinput : m.IsAmong ids input)
    (he : e ∈ input.members) {name : String} (hbind : bindQuery m input e name = .ok stmts) :
    StmtsKeepTo (m.MayCall ids) stmts := by
  have htarget : e.target ∈ ids := hinput.target h he
  refine keepsTo_withMember (fun value byRef stmts hvalue hbody => ?_) hbind
  obtain ⟨element, helement, hbody⟩ := bind_eq_ok.1 hbody
  cases element with
  | some pair =>
    obtain ⟨element, sparse⟩ := pair
    obtain ⟨t, ht, hbody⟩ := bind_eq_ok.1 hbody
    obtain rfl := Except.ok.inj hbody
    obtain ⟨hneeds, htext⟩ :=
      keepsTo_scalarText (listElement?_target h htarget helement) Expr.keepsTo_source ht
    simp (disch := decide) [StmtsKeepTo, Stmt.KeepsTo, addQuery, onRequest, Expr.keepsTo_method,
      hneeds, htext, keepsTo_elements hvalue]
  | none =>
    obtain ⟨t, ht, hbody⟩ := bind_eq_ok.1 hbody
    obtain rfl := Except.ok.inj hbody
    obtain ⟨hneeds, htext⟩ := keepsTo_scalarText htarget hvalue ht
    simp (disch := decide) [StmtsKeepTo, Stmt.KeepsTo, addQuery, onRequest, Expr.keepsTo_method,
      hneeds, htext]

theorem keepsTo_bindHeader (h : m.IsClosed ids) (hinput : m.IsAmong ids input)
    (he : e ∈ input.members) {name : String} (hbind : bindHeader m input e name = .ok stmts) :
    StmtsKeepTo (m.MayCall ids) stmts := by
  have htarget : e.target ∈ ids := hinput.target h he
  refine keepsTo_withMember (fun value byRef stmts hvalue hbody => ?_) hbind
  obtain ⟨element, helement, hbody⟩ := bind_eq_ok.1 hbody
  cases element with
  | some pair =>
    obtain ⟨element, sparse⟩ := pair
    obtain ⟨t, ht, hbody⟩ := bind_eq_ok.1 hbody
    obtain rfl := Except.ok.inj hbody
    have helement := listElement?_target h htarget helement
    obtain ⟨hneeds, -⟩ := keepsTo_scalarText helement Expr.keepsTo_source ht
    have htexts : ((elements value sparse).method "map"
        [.source s!"|{itemLocal e}| {t.text.text}"]).KeepsTo (m.MayCall ids) :=
      Expr.keepsTo_map (keepsTo_elements hvalue) fun f x rest hclosure =>
        mayCall_of_closure helement ht hclosure
    simp (disch := decide) [StmtsKeepTo, Stmt.KeepsTo, setHeader, Expr.keepsTo_method, hneeds,
      htexts]
  | none =>
    obtain ⟨t, ht, hbody⟩ := bind_eq_ok.1 hbody
    obtain rfl := Except.ok.inj hbody
    obtain ⟨hneeds, htext⟩ := keepsTo_scalarText htarget hvalue ht
    simp (disch := decide) [StmtsKeepTo, Stmt.KeepsTo, setHeader, Expr.keepsTo_method, hneeds,
      htext]

/-- The statements of a payload call the codecs of its target, and functions of the libraries. -/
theorem keepsTo_bindPayload (h : m.IsClosed ids) (hinput : m.IsAmong ids input)
    (he : e ∈ input.members) (hbind : bindPayload m input e = .ok stmts) :
    StmtsKeepTo (m.MayCall ids) stmts := by
  obtain ⟨target, -, hbind⟩ := bind_eq_ok.1 hbind
  obtain ⟨symbol, -, hbind⟩ := bind_eq_ok.1 hbind
  have howned : (if symbol.nullable then
      (Expr.source ((CodecPath.ofMember e.name).ofRole "present")).deref.group
      else place e).KeepsTo (m.MayCall ids) := by
    split <;> simp [place]
  have hfinish {inner : List Stmt} (hinner : StmtsKeepTo (m.MayCall ids) inner)
      (h : (if symbol.nullable = true then
        (pure [.ifLet (.some ((CodecPath.ofMember e.name).ofRole "present")) (place e).borrow inner]
          : Except GenerationError (List Stmt)) else pure inner) = .ok stmts) :
      StmtsKeepTo (m.MayCall ids) stmts := by
    split at h
    · obtain rfl := Except.ok.inj h
      simp [StmtsKeepTo, Stmt.KeepsTo, place, hinner]
    · obtain rfl := Except.ok.inj h
      exact hinner
  dsimp only at hbind
  split at hbind
  case h_5 =>
    obtain ⟨encoded, hencoded, hbind⟩ := bind_eq_ok.1 hbind
    refine hfinish ?_ hbind
    have hencodes :=
      Model.keepsTo_encode h (hinput.target h he) (by split <;> simp [place]) hencoded
    simp (disch := decide) [StmtsKeepTo, Stmt.KeepsTo, setJsonBody, onRequest, Need.IsItem,
      Expr.keepsTo_method, hencodes]
  all_goals
    refine hfinish ?_ hbind
    simp (disch := decide) [StmtsKeepTo, Stmt.KeepsTo, setJsonBody, onRequest, setHeader,
      Expr.keepsTo_method, howned]

theorem keepsTo_bindMember (h : m.IsClosed ids) (hinput : m.IsAmong ids input)
    (he : e ∈ input.members) (hbind : bindMember m input e = .ok stmts) :
    StmtsKeepTo (m.MayCall ids) stmts := by
  unfold bindMember at hbind
  split at hbind
  · exact keepsTo_bindQuery h hinput he hbind
  · exact keepsTo_bindHeader h hinput he hbind
  all_goals
    obtain rfl := Except.ok.inj hbind
    exact trivial

theorem keepsTo_bindBody (input : Shape) (bound : List Member) :
    StmtsKeepTo (m.MayCall ids) (bindBody input bound) := by
  unfold bindBody
  split
  · exact trivial
  · have hremove : StmtsKeepTo (m.MayCall ids) (bound.map fun e =>
        .run (.method (.source "fields") "remove" [input.keyExpr e])) := by
      refine stmtsKeepTo_iff.2 fun stmt hstmt => ?_
      obtain ⟨e, -, rfl⟩ := List.mem_map.1 hstmt
      simp (disch := decide) [Stmt.KeepsTo, Shape.keyExpr, Expr.keepsTo_method]
    split <;> simp (disch := decide) [StmtsKeepTo, Stmt.KeepsTo, Need.IsItem, setJsonBody,
      onRequest, encodedInput, Expr.keepsTo_method, hremove]

theorem keepsTo_bindInput (h : m.IsClosed ids) (hinput : m.IsAmong ids input)
    (hbind : bindInput m input = .ok stmts) : StmtsKeepTo (m.MayCall ids) stmts := by
  obtain ⟨each, heach, hbind⟩ := bind_eq_ok.1 hbind
  have hkeeps : StmtsKeepTo (m.MayCall ids) each.flatten := by
    refine stmtsKeepTo_flatten.2 fun l hl => ?_
    obtain ⟨e, he, hl⟩ := exists_of_mem_results heach l hl
    exact keepsTo_bindMember h hinput he hl
  split at hbind
  · rename_i e hlast
    have he : e ∈ input.members := (List.mem_filter.1 (List.mem_of_getLast? hlast)).1
    obtain ⟨payload, hpayload, hbind⟩ := bind_eq_ok.1 hbind
    obtain rfl := Except.ok.inj hbind
    exact stmtsKeepTo_append.2 ⟨hkeeps, keepsTo_bindPayload h hinput he hpayload⟩
  · obtain rfl := Except.ok.inj hbind
    exact stmtsKeepTo_append.2 ⟨hkeeps, keepsTo_bindBody input _⟩

/-! ## Whole requests -/

theorem keepsTo_newRequest {mutable : Bool} {method : HttpMethod} {path : Expr}
    (hpath : path.KeepsTo (m.MayCall ids)) :
    (newRequest mutable method path).KeepsTo (m.MayCall ids) := by
  cases mutable <;> simp (disch := decide) [newRequest, Stmt.KeepsTo, hpath]

/-- Binding a request by traits calls functions of the shapes that the input leads to, and common
ones. -/
theorem keepsTo_restRequest (h : m.IsClosed ids) {c : Call} (hc : c.HasInputIn m ids)
    (hbind : restRequest m c = .ok stmts) : StmtsKeepTo (m.MayCall ids) stmts := by
  obtain ⟨segments, -, hbind⟩ := bind_eq_ok.1 hbind
  obtain ⟨⟨labels, path⟩, hpath, hbind⟩ := bind_eq_ok.1 hbind
  obtain ⟨hlabels, hpath⟩ := keepsTo_path h hc hpath
  have hquery : StmtsKeepTo (m.MayCall ids) ((UriTemplate.ofText c.http.uri).query.map
      fun constant => addQuery constant.1 (.literal constant.2)) := by
    refine stmtsKeepTo_iff.2 fun stmt hstmt => ?_
    obtain ⟨constant, -, rfl⟩ := List.mem_map.1 hstmt
    simp (disch := decide) [Stmt.KeepsTo, addQuery, onRequest, Expr.keepsTo_method]
  dsimp only at hbind
  split at hbind
  · obtain rfl := Except.ok.inj hbind
    simp only [stmtsKeepTo_append, StmtsKeepTo, Stmt.KeepsTo, Need.IsItem, and_true]
    exact ⟨⟨hlabels, trivial, keepsTo_newRequest hpath⟩, hquery⟩
  · rename_i input hinput
    obtain ⟨members, hmembers, hbind⟩ := bind_eq_ok.1 hbind
    obtain rfl := Except.ok.inj hbind
    simp only [stmtsKeepTo_append, StmtsKeepTo, Stmt.KeepsTo, Need.IsItem, and_true]
    exact ⟨⟨⟨hlabels, trivial, keepsTo_newRequest hpath⟩, hquery⟩,
      keepsTo_bindInput h (hc input hinput) hmembers⟩

theorem keepsTo_rpcRequest (c : Call) : StmtsKeepTo (m.MayCall ids) (rpcRequest c) := by
  cases hinput : c.input.isSome <;>
    simp (disch := decide) [rpcRequest, newRequest, hinput, StmtsKeepTo, Stmt.KeepsTo, Need.IsItem,
      setJsonBody, onRequest, encodedInput, Wire.make, Wire.emptyMap, Expr.keepsTo_method]

end Call

end ClientGen
