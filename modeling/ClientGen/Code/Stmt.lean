import ClientGen.Code.Expr
import ClientGen.Code.Layout

/-!
# Statements of generated code

A statement that holds others is a block of its own, and so is an arm with statements, whence their
layout.
-/

namespace ClientGen

mutual

inductive Stmt
  | bind (x : String) (value : Expr)
  | bindMut (x : String) (value : Expr)
  /-- Binds a name of a given type. -/
  | bindTyped (x type : String) (value : Expr)
  | bindBlock (x : String) (body : List Stmt)
  | bindMatch (p : Pattern) (subject : Expr) (arms : List Arm)
  | forIn (p : Pattern) (items : Expr) (body : List Stmt)
  | ifHolds (condition : Expr) (body : List Stmt)
  | ifLet (p : Pattern) (subject : Expr) (body : List Stmt)
  | matchOn (subject : Expr) (arms : List Arm)
  | assign (place value : Expr)
  | run (e : Expr)
  /-- Goes on with the next round of the loop. -/
  | next
  /-- The value of the block. -/
  | result (e : Expr)
  /-- Returns early with an error that has fields. -/
  | fail (error : String) (fields : List (String × Expr))
  /-- The new value of the type as the value of the block, as a success where `success` holds. -/
  | construct (success : Bool) (fields : List (String × Option Expr))
  /-- Does nothing, but needs something from elsewhere. -/
  | need (n : Need)

inductive Arm
  | value (p : Pattern) (e : Expr)
  | block (p : Pattern) (body : List Stmt)
  | skip (p : Pattern)

end

/-- A field with its value, or with the local of its own name. -/
def fieldLine (name : String) : Option Expr → Code
  | some e => .text s!"{name}: {e.text},"
  | none => .text s!"{name},"

mutual

def Stmt.code : Stmt → Code
  | .bind x value => .text s!"let {x} = {value.text};"
  | .bindMut x value => .text s!"let mut {x} = {value.text};"
  | .bindTyped x type value => .text s!"let {x}: {type} = {value.text};"
  | .bindBlock x body => .block s!"let {x} = \x7b" (codeOfStmts body) "\x7d;"
  | .bindMatch p subject arms =>
    .block s!"let {p.text} = match {subject.text} \x7b" (codeOfArms arms) "\x7d;"
  | .forIn p items body =>
    .block s!"for {p.text} in {items.text} \x7b" (codeOfStmts body) "\x7d"
  | .ifHolds condition body => .block s!"if {condition.text} \x7b" (codeOfStmts body) "\x7d"
  | .ifLet p subject body =>
    .block s!"if let {p.text} = {subject.text} \x7b" (codeOfStmts body) "\x7d"
  | .matchOn subject arms => .block s!"match {subject.text} \x7b" (codeOfArms arms) "\x7d"
  | .assign place value => .text s!"{place.text} = {value.text};"
  | .run e => .text s!"{e.text};"
  | .next => .text "continue;"
  | .result e => .text e.text
  | .fail error fields =>
    .block s!"return Err({error} \x7b" (fields.map fun (name, e) => fieldLine name (some e))
      "\x7d);"
  | .construct success fields =>
    .block (if success then "Ok(Self \x7b" else "Self \x7b")
      (fields.map fun (name, e) => fieldLine name e) (if success then "\x7d)" else "\x7d")
  | .need n => .need n

/-- The layout of several statements. -/
def codeOfStmts : List Stmt → List Code
  | [] => []
  | s :: rest => s.code :: codeOfStmts rest

def Arm.code : Arm → Code
  | .value p e => .text s!"{p.text} => {e.text},"
  | .block p body => .block s!"{p.text} => \x7b" (codeOfStmts body) "\x7d"
  | .skip p => .text (p.text ++ " => \x7b\x7d")

def codeOfArms : List Arm → List Code
  | [] => []
  | a :: rest => a.code :: codeOfArms rest

end

end ClientGen
