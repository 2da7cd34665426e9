import ClientGen.Text.Quoted

/-! Expressions and patterns of generated code, each written on one line. -/

namespace ClientGen

inductive Expr
  /-- Source text: a name, a path, a number. -/
  | source (text : String)
  /-- A string literal. -/
  | literal (s : String)
  | call (function : String) (args : List Expr)
  | method (receiver : Expr) (name : String) (args : List Expr)
  | field (e : Expr) (name : String)
  /-- Returns early with the error of `e`, if it is one. -/
  | propagate (e : Expr)
  | borrow (e : Expr)
  | deref (e : Expr)
  | group (e : Expr)
  | record (path : String) (fields : List (String × Expr))
deriving Inhabited

namespace Expr

mutual

def text : Expr → String
  | source t => t
  | literal s => Text.literal s
  | call f args => f ++ "(" ++ ", ".intercalate (texts args) ++ ")"
  | method r name args => r.text ++ "." ++ name ++ "(" ++ ", ".intercalate (texts args) ++ ")"
  | field e name => e.text ++ "." ++ name
  | propagate e => e.text ++ "?"
  | borrow e => "&" ++ e.text
  | deref e => "*" ++ e.text
  | group e => "(" ++ e.text ++ ")"
  | record path fields => path ++ " \x7b " ++ ", ".intercalate (fieldTexts fields) ++ " \x7d"

/-- The written forms of several expressions. -/
def texts : List Expr → List String
  | [] => []
  | e :: rest => e.text :: texts rest

def fieldTexts : List (String × Expr) → List String
  | [] => []
  | (name, e) :: rest => (name ++ ": " ++ e.text) :: fieldTexts rest

end

/-- The expression as the receiver of a method: a borrow stands in parentheses, so that the method
applies to the reference. -/
def receiver (e : Expr) : Expr := if e.text.toList.head? == some '&' then e.group else e

/-- The expression turned into an owned string. -/
def toOwned (e : Expr) : Expr := e.method "to_string" []

end Expr

inductive Pattern
  /-- Source text that binds no name. -/
  | source (text : String)
  | literal (s : String)
  | name (x : String)
  | pair (x y : String)
  /-- A variant with a name for its value. -/
  | variant (path x : String)

namespace Pattern

def text : Pattern → String
  | source t => t
  | literal s => Text.literal s
  | name x => x
  | pair x y => s!"({x}, {y})"
  | variant path x => s!"{path}({x})"

def names : Pattern → List String
  | source _ | literal _ => []
  | name x | variant _ x => [x]
  | pair x y => [x, y]

def some (x : String) : Pattern := .variant "Some" x

/-- Matches a wire value that is absent or null. -/
def absent : Pattern := .source "None | Some(serde_json::Value::Null)"

end Pattern

end ClientGen
