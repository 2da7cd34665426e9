import ClientGen.Code.Item

/-!
# Calls that write statements and items

A line is written by a call of its own. What stands in a block is written between the call that
opens a scope with the head of the block and the call that closes it with its foot, each of which
is separate: nothing here makes sure that they come in pairs.
-/

namespace ClientGen

namespace Writer

/-! ## Statements -/

def writeStmt (w : Writer) (s : Stmt) : Writer := w.emit [s.code]

def writeArm (w : Writer) (a : Arm) : Writer := w.emit [a.code]

/-- Writes a field with its value, or with the local of its own name. -/
def writeField (w : Writer) (name : String) (value : Option Expr) : Writer :=
  w.emit [fieldLine name value]

/-- Opens the block that a name is bound to. -/
def openBlock (w : Writer) (x : String) : Writer := w.openScope s!"let {x} = \x7b"

/-- Opens the match that a name is bound to. -/
def openBindMatch (w : Writer) (x : String) (subject : Expr) : Writer :=
  w.openScope s!"let {x} = match {subject.text} \x7b"

/-- Opens the match that two names are bound to. -/
def openBindPair (w : Writer) (x y : String) (subject : Expr) : Writer :=
  w.openScope s!"let {(Pattern.pair x y).text} = match {subject.text} \x7b"

def openMatch (w : Writer) (subject : Expr) : Writer := w.openScope s!"match {subject.text} \x7b"

def openArm (w : Writer) (p : Pattern) : Writer := w.openScope s!"{p.text} => \x7b"

def openFor (w : Writer) (p : Pattern) (items : Expr) : Writer :=
  w.openScope s!"for {p.text} in {items.text} \x7b"

/-- Opens what is done under a condition. -/
def openIf (w : Writer) (condition : Expr) : Writer := w.openScope s!"if {condition.text} \x7b"

/-- Opens what is done where a value matches. -/
def openIfLet (w : Writer) (p : Pattern) (subject : Expr) : Writer :=
  w.openScope s!"if let {p.text} = {subject.text} \x7b"

/-- Opens the fields of an error that is returned early. -/
def openFail (w : Writer) (error : String) : Writer := w.openScope s!"return Err({error} \x7b"

/-- Opens the fields of the new value, which is a success where `success` holds. -/
def openConstruct (w : Writer) (success : Bool) : Writer :=
  w.openScope (if success then "Ok(Self \x7b" else "Self \x7b")

/-! ## Items -/

def writeDocs (w : Writer) (docs : Option String) : Writer :=
  match docs with
  | some text => w.writeDoc text
  | none => w

def writeDerives (w : Writer) (derives : List String) : Writer :=
  w.write ("#[derive(" ++ ", ".intercalate derives ++ ")]")

def writeConstant (w : Writer) (name type : String) (elements : List Expr) : Writer :=
  w.write (s!"pub const {name}: {type} = &[" ++ ", ".intercalate (elements.map Expr.text) ++ "];")

def openStruct (w : Writer) (name : String) : Writer := w.openScope s!"pub struct {name} \x7b"

def openEnum (w : Writer) (name : String) : Writer := w.openScope s!"pub enum {name} \x7b"

def openInterface (w : Writer) (name : String) : Writer := w.openScope s!"pub trait {name} \x7b"

/-- Opens the members of a type, or its implementation of an interface. -/
def openImpl (w : Writer) (role : Option String) (type : String) : Writer :=
  match role with
  | some role => w.openScope s!"impl {role} for {type} \x7b"
  | none => w.openScope s!"impl {type} \x7b"

def openFunction (w : Writer) (isPublic : Bool) (s : Signature) : Writer :=
  w.openScope s!"{visibility isPublic}{s.text} \x7b"

/-- Writes something for each element, with an empty line before each but the first. -/
def writeSeparated {α : Type} (write : Writer → α → Except GenerationError Writer) (w : Writer) :
    List α → Except GenerationError Writer
  | [] => .ok w
  | a :: rest => do
    let w ← write w a
    rest.foldlM (fun w a => write w.writeBlank a) w

end Writer

end ClientGen
