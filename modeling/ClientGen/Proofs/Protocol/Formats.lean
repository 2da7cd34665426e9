import ClientGen.Proofs.Code.Literals
import ClientGen.Proofs.Protocol.Labels
import ClientGen.Proofs.Protocol.Templates

/-!
# What the expression for a path stands for

The path of a request is a literal if its template has no labels, and a format template with the
locals of the labels if it has some. The literal is the template; the format template gives the
template with a text in the place of each label. This is the text that the label's own statement
binds its local to, unless a later label has a local of the same name: the local is bound again
before the path is read.
-/

namespace ClientGen

/-! ## Format templates -/

/-- What a format template is made of: characters, and places for arguments. -/
inductive FormatPiece
  | char (c : Char)
  | place
deriving DecidableEq

namespace FormatPiece

/-- Reads a format template: a brace that is written twice is a character, and a pair of braces is
the place of the next argument. No other form of a placeholder is read. -/
def ofTemplate? : List Char → Option (List FormatPiece)
  | [] => some []
  | '\x7b' :: '\x7b' :: rest => (ofTemplate? rest).map (char '\x7b' :: ·)
  | '\x7b' :: '\x7d' :: rest => (ofTemplate? rest).map (place :: ·)
  | '\x7b' :: _ => none
  | '\x7d' :: '\x7d' :: rest => (ofTemplate? rest).map (char '\x7d' :: ·)
  | '\x7d' :: _ => none
  | c :: rest => (ofTemplate? rest).map (char c :: ·)

def places (pieces : List FormatPiece) : Nat := pieces.count place

/-- The text with the arguments in their places, if there are as many of them as places. -/
def fill? : List FormatPiece → List String → Option (List Char)
  | [], [] => some []
  | char c :: pieces, args => (fill? pieces args).map (c :: ·)
  | place :: pieces, arg :: args => (fill? pieces args).map (arg.toList ++ ·)
  | [], _ :: _ | place :: _, [] => none

example : (ofTemplate? "a\x7b\x7db\x7d\x7d".toList).bind (fill? · ["1"]) = some "a1b\x7d".toList := by
  decide

theorem ofTemplate?_char {c : Char} (hopen : c ≠ '\x7b') (hclose : c ≠ '\x7d') (rest : List Char) :
    ofTemplate? (c :: rest) = (ofTemplate? rest).map (char c :: ·) := by
  rw [ofTemplate?.eq_def]
  split <;> simp_all

theorem escapeFormat_cons (c : Char) (text : List Char) :
    UriSegment.escapeFormat (c :: text) =
      (if c = '\x7b' ∨ c = '\x7d' then [c, c] else [c]) ++ UriSegment.escapeFormat text := by
  simp [UriSegment.escapeFormat]

/-- A text that is escaped is read as its characters. -/
theorem ofTemplate?_escapeFormat (text rest : List Char) :
    ofTemplate? (UriSegment.escapeFormat text ++ rest) =
      (ofTemplate? rest).map (text.map char ++ ·) := by
  induction text with
  | nil => simp [UriSegment.escapeFormat]
  | cons c text ih =>
    rw [escapeFormat_cons, List.append_assoc]
    by_cases hopen : c = '\x7b'
    · subst hopen
      simp [ofTemplate?, ih, Function.comp_def]
    by_cases hclose : c = '\x7d'
    · subst hclose
      simp [ofTemplate?, ih, Function.comp_def]
    rw [if_neg (by simp [hopen, hclose]), List.singleton_append, ofTemplate?_char hopen hclose, ih]
    simp [Function.comp_def]

theorem fill?_chars (text : List Char) (pieces : List FormatPiece) (args : List String) :
    fill? (text.map char ++ pieces) args = (fill? pieces args).map (text ++ ·) := by
  induction text with
  | nil => simp
  | cons c text ih =>
    rw [List.map_cons, List.cons_append, fill?, ih]
    simp [Function.comp_def]

end FormatPiece

namespace UriSegment

open Call (labelNames labelLocal)
open FormatPiece

/-- A segment of a template as a part of a format template. -/
def pieces : UriSegment → List FormatPiece
  | literal text => text.map .char
  | label .. => [.place]

/-- The segments as they are written, but with the texts in the places of the labels. -/
def expand : List UriSegment → List String → List Char
  | [], _ => []
  | literal text :: rest, texts => text ++ expand rest texts
  | label .. :: rest, text :: texts => text.toList ++ expand rest texts
  | label .. :: rest, [] => expand rest []

theorem ofTemplate?_formatTemplate (segments : List UriSegment) :
    ofTemplate? (formatTemplate segments) = some (segments.flatMap pieces) := by
  induction segments with
  | nil => rfl
  | cons segment segments ih =>
    unfold formatTemplate at ih ⊢
    rw [List.flatMap_cons, List.flatMap_cons]
    cases segment with
    | literal text =>
      dsimp only
      rw [ofTemplate?_escapeFormat, ih]
      rfl
    | label name greedy => simp [ofTemplate?, ih, pieces]

theorem places_pieces (segments : List UriSegment) :
    places (segments.flatMap pieces) = (labelNames segments).length := by
  induction segments with
  | nil => rfl
  | cons segment segments ih =>
    unfold places at ih ⊢
    rw [List.flatMap_cons, List.count_append, ih]
    cases segment with
    | literal text =>
      have hnone : (text.map char).count place = 0 := List.count_eq_zero.2 (by simp)
      rw [pieces, hnone, Nat.zero_add]
      rfl
    | label name greedy => simp [pieces, labelNames, Nat.add_comm]

/-- The format that a template makes, filled with a text for each label, is the expansion. -/
theorem fill?_pieces (segments : List UriSegment) {texts : List String}
    (h : texts.length = (labelNames segments).length) :
    fill? (segments.flatMap pieces) texts = some (expand segments texts) := by
  induction segments generalizing texts with
  | nil =>
    obtain rfl := List.eq_nil_of_length_eq_zero h
    rfl
  | cons segment segments ih =>
    rw [List.flatMap_cons]
    cases segment with
    | literal text =>
      rw [pieces, fill?_chars]
      exact congrArg (Option.map (text ++ ·)) (ih h)
    | label name greedy =>
      cases texts with
      | nil => cases h
      | cons text texts => exact congrArg (Option.map (text.toList ++ ·)) (ih (Nat.succ.inj h))

/-- Nothing of the texts is lost: the path is as long as the literals and the texts are. -/
theorem length_expand (segments : List UriSegment) {texts : List String}
    (h : texts.length = (labelNames segments).length) :
    (expand segments texts).length =
      (literalText segments).length + (texts.flatMap String.toList).length := by
  induction segments generalizing texts with
  | nil =>
    obtain rfl := List.eq_nil_of_length_eq_zero h
    rfl
  | cons segment segments ih =>
    cases segment with
    | literal text =>
      have hliteral : literalText (literal text :: segments) = text ++ literalText segments := rfl
      rw [expand, List.length_append, ih h, hliteral, List.length_append, Nat.add_assoc]
    | label name greedy =>
      cases texts with
      | nil => cases h
      | cons text texts =>
        have hliteral : literalText (label name greedy :: segments) = literalText segments := rfl
        rw [expand, List.length_append, ih (Nat.succ.inj h), hliteral, List.flatMap_cons,
          List.length_append]
        omega

theorem literalText_of_labelNames (segments : List UriSegment) (h : labelNames segments = []) :
    literalText segments = segments.flatMap source := by
  induction segments with
  | nil => rfl
  | cons segment segments ih =>
    cases segment with
    | literal text => exact congrArg (text ++ ·) (ih h)
    | label name greedy => cases h

end UriSegment

namespace Call

/-! ## Locals that are bound again -/

/-- The text of a local behind statements that bind locals to texts one after the other. A later one
hides an earlier one of its name. -/
def textOf? : List String → List String → String → Option String
  | x :: locals, text :: texts, y =>
    (textOf? locals texts y).or (if x = y then some text else none)
  | _, _, _ => none

/-- The texts that the locals stand for when all of them have been bound. -/
def reread? (locals texts : List String) : Option (List String) :=
  locals.mapM (textOf? locals texts)

example : reread? ["a", "b", "a"] ["1", "2", "3"] = some ["3", "2", "3"] := by decide

variable {locals texts : List String} {x : String}

theorem textOf?_eq_none (h : x ∉ locals) (texts : List String) :
    textOf? locals texts x = none := by
  induction locals generalizing texts with
  | nil => cases texts <;> rfl
  | cons y locals ih =>
    obtain ⟨hne, hrest⟩ := List.ne_and_not_mem_of_not_mem_cons h
    cases texts with
    | nil => rfl
    | cons text texts => rw [textOf?, ih hrest, if_neg hne.symm, Option.or_none]

/-- A local has the text of one of the statements that bind it. -/
theorem textOf?_of_mem (hlength : texts.length = locals.length) (h : x ∈ locals) :
    ∃ (i : Nat) (text : String), locals[i]? = some x ∧ texts[i]? = some text ∧
      textOf? locals texts x = some text := by
  induction locals generalizing texts with
  | nil => cases h
  | cons y locals ih =>
    cases texts with
    | nil => cases hlength
    | cons first texts =>
      by_cases hlater : x ∈ locals
      · obtain ⟨i, text, hx, htext, hlast⟩ := ih (Nat.succ.inj hlength) hlater
        exact ⟨i + 1, text, hx, htext, by rw [textOf?, hlast, Option.some_or]⟩
      · obtain rfl := (List.mem_cons.1 h).resolve_right hlater
        exact ⟨0, first, rfl, rfl, by rw [textOf?, textOf?_eq_none hlater, if_pos rfl]; rfl⟩

theorem reread?_eq_some {f : String → String}
    (h : ∀ x ∈ locals, textOf? locals texts x = some (f x)) :
    reread? locals texts = some (locals.map f) := by
  have hall : ∀ xs : List String, (∀ x ∈ xs, x ∈ locals) →
      xs.mapM (textOf? locals texts) = some (xs.map f) := by
    intro xs hxs
    induction xs with
    | nil => rfl
    | cons x xs ih =>
      obtain ⟨hx, hrest⟩ := List.forall_mem_cons.1 hxs
      rw [List.mapM_cons, h x hx, ih hrest]
      rfl
  exact hall locals fun _ => id

/-- All locals have a text. These are the texts they have been bound to exactly if locals of one
name have been bound to the same text. -/
theorem exists_reread (hlength : texts.length = locals.length) :
    ∃ read, reread? locals texts = some read ∧ read.length = locals.length ∧
      (read = texts ↔ ∀ i j : Nat, locals[i]? = locals[j]? → texts[i]? = texts[j]?) := by
  have hread : ∀ x ∈ locals,
      textOf? locals texts x = some ((textOf? locals texts x).getD "") := by
    intro x hx
    obtain ⟨i, text, -, -, hlast⟩ := textOf?_of_mem hlength hx
    rw [hlast, Option.getD_some]
  refine ⟨_, reread?_eq_some hread, List.length_map _, fun hsame i j hij => ?_, fun hagree => ?_⟩
  · rw [← hsame, List.getElem?_map, List.getElem?_map, hij]
  · refine List.ext_getElem? fun i => ?_
    rw [List.getElem?_map]
    cases hx : locals[i]? with
    | none =>
      rw [List.getElem?_eq_none_iff, ← hlength, ← List.getElem?_eq_none_iff] at hx
      rw [hx, Option.map_none]
    | some x =>
      obtain ⟨j, text, hj, htext, hlast⟩ := textOf?_of_mem hlength (List.mem_of_getElem? hx)
      rw [hagree i j (hx.trans hj.symm), htext, Option.map_some, hlast, Option.getD_some]

theorem reread?_of_nodup (hlength : texts.length = locals.length) (h : locals.Nodup) :
    reread? locals texts = some texts := by
  obtain ⟨read, hread, -, hagree⟩ := exists_reread hlength
  obtain rfl := hagree.2 fun i j hij => by
    have hnone : ∀ k : Nat, locals[k]? = none → texts[k]? = none := by
      intro k hk
      rw [List.getElem?_eq_none_iff] at hk ⊢
      omega
    cases hi : locals[i]? with
    | none => rw [hnone i hi, hnone j (hij.symm.trans hi)]
    | some x =>
      obtain ⟨hlt, -⟩ := List.getElem?_eq_some_iff.1 hi
      rw [(List.getElem?_inj hlt h).1 hij]
  exact hread

/-- If two locals have one name, a text of the first of them is lost. -/
theorem exists_hidden (h : ¬ locals.Nodup) :
    ∃ texts, texts.length = locals.length ∧ (texts.flatMap String.toList).length = 1 ∧
      ∀ x ∈ locals, textOf? locals texts x = some "" := by
  have hempty : ∀ xs : List String, ∀ x ∈ xs,
      textOf? xs (List.replicate xs.length "") x = some "" := by
    intro xs x hx
    obtain ⟨i, text, -, htext, hlast⟩ := textOf?_of_mem (List.length_replicate ..) hx
    obtain rfl := List.eq_of_mem_replicate (List.mem_of_getElem? htext)
    exact hlast
  induction locals with
  | nil => exact absurd List.nodup_nil h
  | cons y locals ih =>
    by_cases hy : y ∈ locals
    · have hrest : (List.replicate locals.length "").flatMap String.toList = [] := by simp
      refine ⟨"x" :: List.replicate locals.length "", by simp, ?_, fun x hx => ?_⟩
      · rw [List.flatMap_cons, hrest]
        rfl
      have hx' : x ∈ locals := by
        obtain rfl | hx := List.mem_cons.1 hx
        exacts [hy, hx]
      rw [textOf?, hempty locals x hx', Option.some_or]
    · obtain ⟨texts, hlength, hsum, hlost⟩ := ih fun hnodup => h (List.nodup_cons.2 ⟨hy, hnodup⟩)
      refine ⟨"" :: texts, by simp [hlength], by simp [hsum], fun x hx => ?_⟩
      obtain rfl | hx := List.mem_cons.1 hx
      · rw [textOf?, textOf?_eq_none hy, if_pos rfl]
        rfl
      · rw [textOf?, hlost x hx, Option.some_or]

variable {m : Model} {c : Call} {segments : List UriSegment} {stmts : List Stmt}

/-! ## The locals of the labels -/

theorem binds_needs {target : ShapeId} {value : Expr} {byRef : Bool} {t : ScalarText}
    (h : scalarText m target value byRef = .ok t) : t.needs.flatMap Stmt.binds = [] := by
  obtain ⟨s, -, ⟨-, rfl⟩ | ⟨-, rfl⟩ | rfl⟩ := scalarText_cases h <;> rfl

/-- The statements of a label bind its local, and no other name. -/
theorem binds_bindLabel {name binding : String} {greedy : Bool}
    (h : bindLabel m c name greedy = .ok (stmts, binding)) :
    stmts.flatMap Stmt.binds = [binding] := by
  obtain ⟨-, input, e, symbol, t, -, -, -, hcases⟩ := bindLabel_cases h
  obtain ⟨-, ht, rfl⟩ | ⟨-, ht, rfl⟩ := hcases
  · rw [List.flatMap_append, binds_needs ht]
    rfl
  · rw [List.flatMap_append, binds_needs ht]
    rfl

theorem binds_bindLabels {bindings : List String}
    (h : bindLabels m c segments = .ok (stmts, bindings)) :
    stmts.flatMap Stmt.binds = bindings := by
  refine bindLabels_induction (motive := fun _ stmts bindings =>
    stmts.flatMap Stmt.binds = bindings) rfl (fun hown hothers => ?_) h
  rw [List.flatMap_append, binds_bindLabel hown, hothers, List.singleton_append]

/-! ## Expressions -/

theorem binds_path {path : Expr} (h : c.path m segments = .ok (stmts, path)) :
    stmts.flatMap Stmt.binds = (labelNames segments).map labelLocal := by
  obtain ⟨-, labels, hbound, ⟨-, rfl, -⟩ | ⟨-, rfl, -⟩⟩ := path_cases h
  · exact binds_bindLabels hbound
  · rw [List.flatMap_append, binds_bindLabels hbound]
    simp [Stmt.binds]

theorem path_eq_format {path : Expr} (h : c.path m segments = .ok (stmts, path))
    (hsome : labelNames segments ≠ []) :
    path = .call "format!" (.literal (String.ofList (UriSegment.formatTemplate segments)) ::
      ((labelNames segments).map labelLocal).map .source) := by
  obtain ⟨-, labels, hbound, ⟨hnone, -⟩ | ⟨-, -, rfl⟩⟩ := path_cases h
  · exact absurd hnone hsome
  · rw [List.map_map]
    rfl

theorem expand_reread {texts : List String}
    (hlength : texts.length = (labelNames segments).length) :
    ∃ read, reread? ((labelNames segments).map labelLocal) texts = some read ∧
      FormatPiece.fill? (segments.flatMap UriSegment.pieces) read =
        some (UriSegment.expand segments read) ∧
      (read = texts ↔ ∀ i j : Nat, ((labelNames segments).map labelLocal)[i]? =
        ((labelNames segments).map labelLocal)[j]? → texts[i]? = texts[j]?) := by
  have hlocals : texts.length = ((labelNames segments).map labelLocal).length := by
    rw [hlength, List.length_map]
  obtain ⟨read, hread, hsame, hagree⟩ := exists_reread hlocals
  exact ⟨read, hread, UriSegment.fill?_pieces segments (by rw [hsame, List.length_map]), hagree⟩

/-- Each label has its own text, whatever the texts are, exactly if no two labels have one local. -/
theorem expand_own_iff :
    (∀ texts : List String, texts.length = (labelNames segments).length →
      (reread? ((labelNames segments).map labelLocal) texts).bind
        (FormatPiece.fill? (segments.flatMap UriSegment.pieces)) =
          some (UriSegment.expand segments texts)) ↔
      ((labelNames segments).map labelLocal).Nodup := by
  constructor
  · intro hown
    by_contra hnodup
    obtain ⟨texts, hlength, hone, hlost⟩ := exists_hidden hnodup
    rw [List.length_map] at hlength
    have hread := reread?_eq_some (f := fun _ => "") hlost
    -- What is read has no characters, but one of the texts has one.
    have hempty : (((labelNames segments).map labelLocal).map fun _ => "").length =
        (labelNames segments).length := by simp
    have hnothing : (((labelNames segments).map labelLocal).map fun _ => "").flatMap
        String.toList = [] := by simp
    have hfull := hown texts hlength
    rw [hread, Option.bind_some, UriSegment.fill?_pieces segments hempty] at hfull
    have hlengths := congrArg List.length (Option.some.inj hfull)
    rw [UriSegment.length_expand segments hempty, UriSegment.length_expand segments hlength, hone,
      hnothing, List.length_nil] at hlengths
    omega
  · intro hnodup texts hlength
    have hlocals : texts.length = ((labelNames segments).map labelLocal).length := by
      rw [hlength, List.length_map]
    rw [reread?_of_nodup hlocals hnodup, Option.bind_some, UriSegment.fill?_pieces segments hlength]

/-- The segments of a template are written as the template, and its path binds the locals of the
labels one after the other. Without labels it is a literal that stands for the template. With labels
it is a format template that has one place for each of them. Whatever texts the locals are bound to,
it gives the rest of the template as it is, and in the place of each label the text that its local
has then; this is the text of the label's own statement if labels that share a local have the same
text. So it is for all texts exactly if no two labels share a local. -/
theorem path_expands {template : List Char} {path : Expr}
    (hsegments : UriSegment.ofTemplate template = .ok segments)
    (hpath : c.path m segments = .ok (stmts, path)) :
    let locals := (labelNames segments).map labelLocal
    segments.flatMap UriSegment.source = template ∧
    stmts.flatMap Stmt.binds = locals ∧
    (labelNames segments = [] → Syntax.IsLiteralOf path.text (String.ofList template)) ∧
    (labelNames segments ≠ [] → ∃ (format : String) (pieces : List FormatPiece),
      path = .call "format!" (.literal format :: locals.map .source) ∧
      Syntax.IsLiteralOf (Expr.literal format).text format ∧
      FormatPiece.ofTemplate? format.toList = some pieces ∧
      FormatPiece.places pieces = (labelNames segments).length ∧
      (∀ texts : List String, texts.length = (labelNames segments).length →
        ∃ read, reread? locals texts = some read ∧
          FormatPiece.fill? pieces read = some (UriSegment.expand segments read) ∧
          (read = texts ↔ ∀ i j : Nat, locals[i]? = locals[j]? → texts[i]? = texts[j]?)) ∧
      ((∀ texts : List String, texts.length = (labelNames segments).length →
        (reread? locals texts).bind (FormatPiece.fill? pieces) =
          some (UriSegment.expand segments texts)) ↔ locals.Nodup)) := by
  have hsource := (UriSegment.isDecomposition_of_ok template segments hsegments).written
  refine ⟨hsource, binds_path hpath, fun hnone => ?_, fun hsome => ?_⟩
  · obtain ⟨-, labels, -, ⟨-, -, rfl⟩ | ⟨hsome, -⟩⟩ := path_cases hpath
    · rw [UriSegment.literalText_of_labelNames segments hnone, hsource]
      exact Syntax.isLiteralOf_literal _
    · exact absurd hnone hsome
  · refine ⟨_, segments.flatMap UriSegment.pieces, path_eq_format hpath hsome,
      Syntax.isLiteralOf_literal _, ?_, UriSegment.places_pieces segments,
      fun texts => expand_reread, expand_own_iff⟩
    rw [String.toList_ofList, UriSegment.ofTemplate?_formatTemplate]

/-- A template with a closing brace of its own and a key, which has a local of its own. -/
theorem path_expands_key :
    let segments : List UriSegment := [.literal "/a\x7d/".toList, .label "key".toList false]
    UriSegment.ofTemplate "/a\x7d/\x7bkey\x7d".toList = .ok segments ∧
      ∃ stmts path, keyCall.path keyModel segments = .ok (stmts, path) ∧
        ∃ format pieces, path = .call "format!" [.literal format, .source (labelLocal "key")] ∧
          FormatPiece.ofTemplate? format.toList = some pieces ∧ ∀ text : String,
            (reread? [labelLocal "key"] [text]).bind (FormatPiece.fill? pieces) =
              some ("/a\x7d/".toList ++ text.toList) := by
  intro segments
  have hlabel : (UriSegment.label "key".toList false).IsProper :=
    ⟨by decide, by decide, by decide⟩
  have hsegments : UriSegment.ofTemplate "/a\x7d/\x7bkey\x7d".toList = .ok segments :=
    @UriSegment.ofTemplate_append_label "/a\x7d/".toList [] _ _ _ (by decide) hlabel
      (UriSegment.ofTemplate_plain List.not_mem_nil)
  have hmatch := labels_match_keyCall (show labelNames segments = ["key"] from rfl)
  obtain ⟨⟨stmts, path⟩, hpath⟩ := (path_goesWellIff hasSymbols_keyCall).ok hmatch
  obtain ⟨-, -, -, hlabels⟩ := path_expands hsegments hpath
  obtain ⟨format, pieces, hformat, -, hpieces, -, -, hown⟩ := hlabels (by decide)
  refine ⟨hsegments, stmts, path, hpath, format, pieces, hformat, hpieces, fun text => ?_⟩
  have hfill := hown.2 (List.nodup_singleton _) [text] rfl
  simpa [segments, UriSegment.expand, labelNames] using hfill

/-- Two members whose locals have one name, as a local cannot start with a digit: both labels get
the text of the second one. -/
theorem not_expands_own_homonyms :
    let input : Shape :=
      ⟨⟨"store", "Item"⟩, .structure [labelMember "3d", labelMember "m3d"], []⟩
    let c : Call := ⟨putOperation input, some input⟩
    let m : Model := ⟨⟨[.ofPrimitive .string, input], by decide⟩, .empty, .empty⟩
    let segments : List UriSegment := [.literal ['/'], .label "3d".toList false, .literal ['/'],
      .label "m3d".toList false]
    let pieces : List FormatPiece := [.char '/', .place, .char '/', .place]
    UriSegment.ofTemplate "/\x7b3d\x7d/\x7bm3d\x7d".toList = .ok segments ∧
      (∃ stmts, stmts.flatMap Stmt.binds = ["m3d_label", "m3d_label"] ∧
        c.path m segments = .ok (stmts, .call "format!" [.literal "/\x7b\x7d/\x7b\x7d",
          .source "m3d_label", .source "m3d_label"])) ∧
      FormatPiece.ofTemplate? "/\x7b\x7d/\x7b\x7d".toList = some pieces ∧
      (reread? ["m3d_label", "m3d_label"] ["a", "b"]).bind (FormatPiece.fill? pieces) =
        some "/b/b".toList ∧
      UriSegment.expand segments ["a", "b"] = "/a/b".toList := by
  intro input c m segments pieces
  have htext : m.shape? (.prelude "String") = some (.ofPrimitive .string) := by decide
  have hsymbols : c.HasSymbols m := by
    refine hasSymbols_of_leaves rfl (by decide) rfl fun e he => ?_
    obtain rfl | rfl := List.mem_pair.1 he <;>
      exact ⟨by decide, rfl, _, (Model.symbol_shape htext).trans rfl⟩
  have hsegments : UriSegment.ofTemplate "/\x7b3d\x7d/\x7bm3d\x7d".toList = .ok segments := by
    refine UriSegment.ofTemplate_source segments (fun l hl => ?_) ?_
    · simp only [segments, List.mem_cons, List.not_mem_nil, or_false] at hl
      obtain rfl | rfl | rfl | rfl := hl <;> simp [UriSegment.IsProper]
    · simp [segments, UriSegment.Apart, UriSegment.isLiteral]
  have hlocals : (labelNames segments).map labelLocal = ["m3d_label", "m3d_label"] := by
    decide +kernel
  have hmatch : (∀ name ∈ labelNames segments, c.IsBound m name) ∧ c.IsUsed segments := by
    constructor
    · intro name hname
      obtain rfl | rfl := List.mem_pair.1 hname
      · exact ⟨input, labelMember "3d", rfl, ⟨rfl, rfl, [], [labelMember "m3d"], rfl,
          fun _ hb => absurd hb List.not_mem_nil⟩, .ofPrimitive .string, htext, rfl⟩
      · refine ⟨input, labelMember "m3d", rfl, ⟨rfl, rfl, [labelMember "3d"], [], rfl, ?_⟩,
          .ofPrimitive .string, htext, rfl⟩
        intro b hb hname
        obtain rfl := List.mem_singleton.1 hb
        exact absurd hname (by decide)
    · intro input' hinput e he _
      obtain rfl := Option.some.inj hinput
      obtain rfl | rfl := List.mem_pair.1 he
      · exact List.mem_cons_self
      · exact List.mem_cons_of_mem _ List.mem_cons_self
  obtain ⟨⟨stmts, path⟩, hpath⟩ := (path_goesWellIff hsymbols).ok hmatch
  have hbinds := binds_path hpath
  obtain rfl := path_eq_format hpath (by decide)
  rw [hlocals] at hbinds hpath
  exact ⟨hsegments, ⟨stmts, hbinds, hpath⟩, by decide, by decide, by decide⟩

end Call

end ClientGen
