import ClientGen.Code.Scope

/-!
# What calls of a writer write

Calls that open a scope, write some code and close the scope again write a block of this code, so
that from the inside out more and more calls come to one piece of code: a loop over elements to the
code of each of them, the calls for a function to its block, and so on up to a module. What is
written so leaves the scopes as they are, and a module that is finished then has none open.
-/

namespace ClientGen

theorem Code.needsOfAll_append (front back : List Code) :
    needsOfAll (front ++ back) = needsOfAll front ++ needsOfAll back := by
  induction front with
  | nil => rfl
  | cons c front ih => rw [List.cons_append, needsOfAll, ih, needsOfAll, List.append_assoc]

theorem codeOfStmts_append (front back : List Stmt) :
    codeOfStmts (front ++ back) = codeOfStmts front ++ codeOfStmts back := by
  induction front with
  | nil => rfl
  | cons s front ih => simp only [List.cons_append, codeOfStmts, ih]

theorem codeOfArms_append (front back : List Arm) :
    codeOfArms (front ++ back) = codeOfArms front ++ codeOfArms back := by
  induction front with
  | nil => rfl
  | cons a front ih => simp only [List.cons_append, codeOfArms, ih]

theorem codeOfStmts_eq_flatMap (stmts : List Stmt) :
    codeOfStmts stmts = stmts.flatMap fun s => [s.code] := by
  induction stmts with
  | nil => rfl
  | cons s stmts ih => rw [codeOfStmts, ih, List.flatMap_cons, List.singleton_append]

theorem codeOfArms_eq_flatMap (arms : List Arm) :
    codeOfArms arms = arms.flatMap fun a => [a.code] := by
  induction arms with
  | nil => rfl
  | cons a arms ih => rw [codeOfArms, ih, List.flatMap_cons, List.singleton_append]

theorem codeOfStmts_flatten (each : List (List Stmt)) :
    codeOfStmts each.flatten = each.flatMap codeOfStmts := by
  induction each with
  | nil => rfl
  | cons stmts each ih => rw [List.flatten_cons, codeOfStmts_append, ih, List.flatMap_cons]

namespace Writer

/-- The module with other lines, inside other scopes. -/
def place (w : Writer) (lines scopes : List String) : Writer := { w with lines, scopes }

def provideAll (w : Writer) (needs : List Need) : Writer := needs.foldl provide w

variable {w : Writer} {lines scopes : List String}

@[simp] theorem lines_place : (w.place lines scopes).lines = lines := rfl

@[simp] theorem scopes_place : (w.place lines scopes).scopes = scopes := rfl

@[simp] theorem depth_place : (w.place lines scopes).depth = scopes.length := rfl

@[simp] theorem place_place {lines' scopes' : List String} :
    (w.place lines scopes).place lines' scopes' = w.place lines' scopes' := rfl

/-! ## Needs do not depend on the place -/

theorem importAs_place (w : Writer) (ns name : String) (localName : Option String) :
    (w.place lines scopes).importAs ns name localName =
      (w.importAs ns name localName).place lines scopes := by
  have hforeign : (w.place lines scopes).isForeign ns = w.isForeign ns := rfl
  unfold importAs
  rw [hforeign]
  split <;> rfl

theorem foldl_place {α : Type} {f : Writer → α → Writer}
    (h : ∀ w a, f (w.place lines scopes) a = (f w a).place lines scopes) (as : List α)
    (w : Writer) : as.foldl f (w.place lines scopes) = (as.foldl f w).place lines scopes := by
  induction as generalizing w with
  | nil => rfl
  | cons a as ih => rw [List.foldl_cons, h, ih, List.foldl_cons]

theorem registerPart_place (w : Writer) (localName : Option String) (s : Symbol) :
    (w.place lines scopes).registerPart localName s =
      (w.registerPart localName s).place lines scopes := by
  have hrequire : ∀ (w : Writer) (d : Dependency),
      (w.place lines scopes).require d = (w.require d).place lines scopes := fun _ _ => rfl
  unfold registerPart
  rw [foldl_place hrequire, importAs_place]

theorem register_place (w : Writer) (s : Symbol) (localName : Option String) :
    (w.place lines scopes).register s localName = (w.register s localName).place lines scopes := by
  unfold register
  cases s.parts with
  | nil => rfl
  | cons head inside =>
    dsimp only
    rw [registerPart_place]
    exact foldl_place (fun w s => registerPart_place w none s) inside _

theorem provide_place (w : Writer) (n : Need) :
    (w.place lines scopes).provide n = (w.provide n).place lines scopes := by
  cases n with
  | item ns name => exact importAs_place w ns name none
  | type s => exact register_place w s none
  | package d => rfl

theorem provideAll_place (w : Writer) (needs : List Need) :
    (w.place lines scopes).provideAll needs = (w.provideAll needs).place lines scopes :=
  foldl_place provide_place needs w

/-! ## Needs do not rename the module -/

theorem ns_importAs (w : Writer) (ns name : String) (localName : Option String) :
    (w.importAs ns name localName).ns = w.ns := by
  unfold importAs
  split <;> rfl

theorem ns_foldl {α : Type} {f : Writer → α → Writer} (h : ∀ w a, (f w a).ns = w.ns)
    (as : List α) (w : Writer) : (as.foldl f w).ns = w.ns := by
  induction as generalizing w with
  | nil => rfl
  | cons a as ih => rw [List.foldl_cons, ih, h]

theorem ns_registerPart (w : Writer) (localName : Option String) (s : Symbol) :
    (w.registerPart localName s).ns = w.ns := by
  rw [registerPart, ns_importAs]
  exact ns_foldl (f := require) (fun _ _ => rfl) s.dependencies w

theorem ns_register (w : Writer) (s : Symbol) (localName : Option String) :
    (w.register s localName).ns = w.ns := by
  unfold register
  cases s.parts with
  | nil => rfl
  | cons head inside =>
    exact (ns_foldl (fun w s => ns_registerPart w none s) inside _).trans
      (ns_registerPart w localName head)

theorem ns_provide (w : Writer) (n : Need) : (w.provide n).ns = w.ns := by
  cases n with
  | item ns name => exact ns_importAs w ns name none
  | type s => exact ns_register w s none
  | package d => rfl

/-! ## Code is written piece by piece -/

theorem emit_eq (w : Writer) (code : List Code) : w.emit code =
    (w.provideAll (Code.needsOfAll code)).place (w.lines ++ Code.linesOfAll w.depth code)
      w.scopes :=
  provideAll_place w (Code.needsOfAll code)

@[simp] theorem scopes_emit (w : Writer) (code : List Code) : (w.emit code).scopes = w.scopes := by
  rw [emit_eq, scopes_place]

@[simp] theorem ns_emit (w : Writer) (code : List Code) : (w.emit code).ns = w.ns := by
  rw [emit_eq]
  exact ns_foldl ns_provide _ w

@[simp] theorem emit_nil (w : Writer) : w.emit [] = w := by
  simp [emit, Code.linesOfAll, Code.needsOfAll]

theorem emit_cons (w : Writer) (c : Code) (rest : List Code) :
    w.emit (c :: rest) = (w.emit [c]).emit rest := by
  simp only [emit_eq, provideAll_place, place_place, lines_place, scopes_place, depth_place]
  simp only [Code.needsOfAll, Code.linesOfAll, List.append_nil, List.append_assoc, provideAll,
    List.foldl_append]
  rfl

theorem write_eq (w : Writer) (text : String) :
    w.write text = w.place (w.lines ++ Code.textLines w.depth text) w.scopes := by
  rw [write, emit_eq, Code.linesOfAll, Code.linesOfAll, Code.linesAt, List.append_nil]
  rfl

theorem openScope_eq (w : Writer) (header : String) : w.openScope header =
    w.place (w.lines ++ Code.textLines w.depth header) (header :: w.scopes) := by
  rw [openScope, write_eq]
  rfl

theorem closeScope_place (w : Writer) (footer innermost : String) :
    (w.place lines (innermost :: scopes)).closeScope footer =
      .ok (w.place (lines ++ Code.textLines scopes.length footer) scopes) := by
  rw [closeScope, scopes_place]
  dsimp only
  rw [write_eq]
  rfl

/-- The scope that a block opens is the one that its footer closes. -/
theorem closeScope_emit_openScope (w : Writer) (header footer : String) (body : List Code) :
    ((w.openScope header).emit body).closeScope footer =
      .ok (w.emit [.block header body footer]) := by
  rw [openScope_eq, emit_eq, provideAll_place, place_place, lines_place, depth_place, scopes_place,
    closeScope_place, emit_eq]
  simp only [Code.needsOfAll, Code.needs, Code.linesOfAll, Code.linesAt, List.append_nil,
    List.append_assoc]
  rfl

/-! ## Blocks of statements -/

/-- The module with some statements at its end. -/
def writeStmts (w : Writer) (stmts : List Stmt) : Writer := w.emit (codeOfStmts stmts)

/-- The module with some arms of a match at its end. -/
def writeArms (w : Writer) (arms : List Arm) : Writer := w.emit (codeOfArms arms)

theorem emit_emit (w : Writer) (front back : List Code) :
    (w.emit front).emit back = w.emit (front ++ back) := by
  induction front generalizing w with
  | nil => rw [List.nil_append, emit_nil]
  | cons c front ih => rw [List.cons_append, emit_cons, ih, ← emit_cons]

variable (w : Writer)

@[simp] theorem writeStmt_eq (s : Stmt) : w.writeStmt s = w.writeStmts [s] := rfl

@[simp] theorem writeArm_eq (a : Arm) : w.writeArm a = w.writeArms [a] := rfl

theorem emit_need (n : Need) : w.emit [.need n] = w.provide n := by
  simp [emit, Code.linesOfAll, Code.linesAt, Code.needsOfAll, Code.needs]

@[simp] theorem provide_eq (n : Need) : w.provide n = w.writeStmts [.need n] :=
  (w.emit_need n).symm

@[simp] theorem writeStmts_writeStmts (front back : List Stmt) :
    (w.writeStmts front).writeStmts back = w.writeStmts (front ++ back) := by
  rw [writeStmts, writeStmts, writeStmts, emit_emit, codeOfStmts_append]

@[simp] theorem writeArms_writeArms (front back : List Arm) :
    (w.writeArms front).writeArms back = w.writeArms (front ++ back) := by
  rw [writeArms, writeArms, writeArms, emit_emit, codeOfArms_append]

variable (x : String) (p : Pattern) (subject : Expr) (body : List Stmt) (arms : List Arm)

@[simp] theorem closeScope_openBlock : ((w.openBlock x).writeStmts body).closeScope "\x7d;" =
    .ok (w.writeStmts [.bindBlock x body]) :=
  closeScope_emit_openScope ..

@[simp] theorem closeScope_openBindMatch :
    ((w.openBindMatch x subject).writeArms arms).closeScope "\x7d;" =
      .ok (w.writeStmts [.bindMatch (.name x) subject arms]) :=
  closeScope_emit_openScope ..

@[simp] theorem closeScope_openMatch : ((w.openMatch subject).writeArms arms).closeScope "\x7d" =
    .ok (w.writeStmts [.matchOn subject arms]) :=
  closeScope_emit_openScope ..

@[simp] theorem closeScope_openArm : ((w.openArm p).writeStmts body).closeScope "\x7d" =
    .ok (w.writeArms [.block p body]) :=
  closeScope_emit_openScope ..

@[simp] theorem closeScope_openFor : ((w.openFor p subject).writeStmts body).closeScope "\x7d" =
    .ok (w.writeStmts [.forIn p subject body]) :=
  closeScope_emit_openScope ..

@[simp] theorem closeScope_openIf : ((w.openIf subject).writeStmts body).closeScope "\x7d" =
    .ok (w.writeStmts [.ifHolds subject body]) :=
  closeScope_emit_openScope ..

@[simp] theorem closeScope_openIfLet :
    ((w.openIfLet p subject).writeStmts body).closeScope "\x7d" =
      .ok (w.writeStmts [.ifLet p subject body]) :=
  closeScope_emit_openScope ..

@[simp] theorem closeScope_openBindPair (y : String) :
    ((w.openBindPair x y subject).writeArms arms).closeScope "\x7d;" =
      .ok (w.writeStmts [.bindMatch (.pair x y) subject arms]) :=
  closeScope_emit_openScope ..

/-- The fields of an error are written into the statement that returns it. -/
theorem closeScope_openFail (error : String) (fields : List (String × Expr)) :
    ((w.openFail error).emit (fields.map fun (name, e) => fieldLine name (some e))).closeScope
      "\x7d);" = .ok (w.writeStmts [.fail error fields]) :=
  closeScope_emit_openScope ..

/-! ## Items -/

theorem writeDocs_eq (docs : Option String) : w.writeDocs docs = w.emit (docCode docs) := by
  cases docs with
  | none => exact w.emit_nil.symm
  | some text => rfl

theorem writeDerives_eq (derive : String) (derives : List String) :
    w.writeDerives (derive :: derives) = w.emit (deriveCode (derive :: derives)) := rfl

end Writer

/-! ## Loops -/

theorem separated_cons (piece : List Code) (pieces : List (List Code)) :
    separated (piece :: pieces) =
      piece ++ pieces.flatMap fun piece => Code.blank :: piece := by
  induction pieces generalizing piece with
  | nil => simp [separated]
  | cons next pieces ih =>
    have hnext : separated (piece :: next :: pieces) =
        piece ++ Code.blank :: separated (next :: pieces) := by
      simp [separated, List.intercalate]
    rw [hnext, ih, List.flatMap_cons, List.cons_append]

/-- Calls on a module write some code, or fail as making the code does. -/
def Emits (calls : Writer → Except GenerationError Writer)
    (code : Except GenerationError (List Code)) : Prop :=
  ∀ w, calls w = code.map w.emit

namespace Emits

variable {α β : Type} {step : Writer → α → Except GenerationError Writer}
  {made : α → Except GenerationError β} {code : β → List Code}

/-- A loop writes the code of its elements one after the other. -/
theorem foldlM (h : ∀ a, Emits (step · a) ((made a).map code)) (as : List α) (w : Writer) :
    as.foldlM step w = (as.mapM made).map fun bs => w.emit (bs.flatMap code) := by
  induction as generalizing w with
  | nil => exact congrArg Except.ok w.emit_nil.symm
  | cons a as ih =>
    have hstep : step w a = ((made a).map code).map w.emit := h a w
    rw [List.foldlM_cons, List.mapM_cons, hstep]
    cases made a with
    | error e => rfl
    | ok b =>
      change as.foldlM step (w.emit (code b)) = _
      rw [ih]
      cases as.mapM made with
      | error e => rfl
      | ok bs => exact congrArg Except.ok (Writer.emit_emit w (code b) (bs.flatMap code))

/-- So it does with empty lines between them. -/
theorem separated (h : ∀ a, Emits (step · a) ((made a).map code)) (as : List α) (w : Writer) :
    w.writeSeparated step as =
      (as.mapM made).map fun bs => w.emit (ClientGen.separated (bs.map code)) := by
  cases as with
  | nil => exact congrArg Except.ok w.emit_nil.symm
  | cons a as =>
    have hrest : ∀ a, Emits (fun w => step w.writeBlank a)
        ((made a).map fun b => Code.blank :: code b) := by
      intro a w
      rw [h a w.writeBlank]
      cases made a with
      | error e => rfl
      | ok b => exact congrArg Except.ok (w.emit_cons .blank (code b)).symm
    have hstep : step w a = ((made a).map code).map w.emit := h a w
    change (step w a >>= fun w => as.foldlM (fun w a => step w.writeBlank a) w) = _
    rw [List.mapM_cons, hstep]
    cases made a with
    | error e => rfl
    | ok b =>
      change as.foldlM (fun w a => step w.writeBlank a) (w.emit (code b)) = _
      rw [foldlM hrest]
      cases as.mapM made with
      | error e => rfl
      | ok bs =>
        have hcode : ClientGen.separated ((b :: bs).map code) =
            code b ++ bs.flatMap fun b => Code.blank :: code b := by
          rw [List.map_cons, separated_cons, List.flatMap_map]
        refine congrArg Except.ok ((Writer.emit_emit w (code b) _).trans ?_)
        exact congrArg w.emit hcode.symm

/-- A loop that writes a statement for each element. -/
theorem foldlM_stmt {made : α → Except GenerationError Stmt}
    (h : ∀ a, Emits (step · a) ((made a).map fun s => [s.code])) (as : List α) (w : Writer) :
    as.foldlM step w = (as.mapM made).map w.writeStmts := by
  rw [foldlM h]
  cases as.mapM made with
  | error e => rfl
  | ok stmts => exact congrArg (Except.ok ∘ w.emit) (codeOfStmts_eq_flatMap stmts).symm

/-- A loop that writes an arm for each element. -/
theorem foldlM_arm {made : α → Except GenerationError Arm}
    (h : ∀ a, Emits (step · a) ((made a).map fun arm => [arm.code])) (as : List α) (w : Writer) :
    as.foldlM step w = (as.mapM made).map w.writeArms := by
  rw [foldlM h]
  cases as.mapM made with
  | error e => rfl
  | ok arms => exact congrArg (Except.ok ∘ w.emit) (codeOfArms_eq_flatMap arms).symm

/-- A loop that writes any number of statements for each element. -/
theorem foldlM_stmts {made : α → Except GenerationError (List Stmt)}
    (h : ∀ a, Emits (step · a) ((made a).map codeOfStmts)) (as : List α) (w : Writer) :
    as.foldlM step w = (as.mapM made).map fun each => w.writeStmts each.flatten := by
  rw [foldlM h]
  cases as.mapM made with
  | error e => rfl
  | ok each => exact congrArg (Except.ok ∘ w.emit) (codeOfStmts_flatten each).symm

end Emits

namespace Writer

theorem foldl_emit {α : Type} {f : Writer → α → Writer} {code : α → List Code}
    (h : ∀ w a, f w a = w.emit (code a)) (as : List α) (w : Writer) :
    as.foldl f w = w.emit (as.flatMap code) := by
  induction as generalizing w with
  | nil => exact w.emit_nil.symm
  | cons a as ih => rw [List.foldl_cons, h, ih, emit_emit, List.flatMap_cons]

@[simp] theorem foldl_writeStmt (stmts : List Stmt) (w : Writer) :
    stmts.foldl writeStmt w = w.writeStmts stmts := by
  rw [foldl_emit (f := writeStmt) fun _ _ => rfl, ← codeOfStmts_eq_flatMap, writeStmts]

@[simp] theorem foldl_writeArm (arms : List Arm) (w : Writer) :
    arms.foldl writeArm w = w.writeArms arms := by
  rw [foldl_emit (f := writeArm) fun _ _ => rfl, ← codeOfArms_eq_flatMap, writeArms]

theorem foldl_provide (needs : List Need) (w : Writer) :
    needs.foldl provide w = w.emit (needs.map .need) := by
  rw [foldl_emit (f := provide) fun w n => (w.emit_need n).symm, List.map_eq_flatMap]

theorem foldl_register (types : List Symbol) (w : Writer) :
    types.foldl (fun w t => w.register t none) w = w.emit (types.map fun t => .need (.type t)) := by
  have h := foldl_provide (types.map .type) w
  rwa [List.foldl_map, List.map_map] at h

theorem foldl_writeField (fields : List (String × Option Expr)) (w : Writer) :
    fields.foldl (fun w (name, e) => w.writeField name e) w =
      w.emit (fields.map fun (name, e) => fieldLine name e) := by
  induction fields generalizing w with
  | nil => exact w.emit_nil.symm
  | cons field fields ih =>
    rw [List.foldl_cons, ih, List.map_cons, w.emit_cons]
    rfl

/-- The fields of a new value are written into the statement that makes it, as a success. -/
theorem closeScope_openConstruct_true (fields : List (String × Option Expr)) (w : Writer) :
    (fields.foldl (fun w (name, e) => w.writeField name e) (w.openConstruct true)).closeScope
      "\x7d)" = .ok (w.writeStmts [.construct true fields]) := by
  rw [foldl_writeField]
  exact closeScope_emit_openScope ..

/-- So they are where the value itself is the result. -/
theorem closeScope_openConstruct_false (fields : List (String × Option Expr)) (w : Writer) :
    (fields.foldl (fun w (name, e) => w.writeField name e) (w.openConstruct false)).closeScope
      "\x7d" = .ok (w.writeStmts [.construct false fields]) := by
  rw [foldl_writeField]
  exact closeScope_emit_openScope ..

/-- A function is written as its documentation, the types in its head and its block. -/
theorem closeScope_openFunction (docs : Option String) (isPublic : Bool) (s : Signature)
    (body : List Stmt) (w : Writer) :
    (((s.types.foldl (fun w t => w.register t none) (w.writeDocs docs)).openFunction isPublic
      s).writeStmts body).closeScope "\x7d" =
      .ok (w.emit (Associated.code (.function docs isPublic s body))) := by
  rw [foldl_register, openFunction, writeStmts, closeScope_emit_openScope, writeDocs_eq, emit_emit,
    emit_emit, ← List.append_assoc]
  rfl

/-- A method of a type, without types of the model in its head, is written as its block. -/
theorem closeScope_openMethod (isPublic : Bool) (name : String) (params : List String)
    (result : String) (body : List Stmt) (w : Writer) :
    ((w.openFunction isPublic ⟨name, params, result, []⟩).writeStmts body).closeScope "\x7d" =
      .ok (w.emit (Associated.code (.function none isPublic ⟨name, params, result, []⟩ body))) :=
  closeScope_openFunction none isPublic ⟨name, params, result, []⟩ body w

/-- A module that code has been written into can be finished where it could be before. -/
theorem finalize_emit {w : Writer} (h : w.scopes = []) (code : List Code) :
    (w.emit code).finalize = .ok ⟨w.ns, (w.emit code).source, (w.emit code).dependencies⟩ := by
  have hopen : (w.emit code).scopes = [] := (scopes_emit w code).trans h
  rw [finalize, hopen, ns_emit]

end Writer

end ClientGen
