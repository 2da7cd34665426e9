import ClientGen.Format.Expressions

/-!
# Layouts of items

An item ends its line. What it holds stands on lines of its own, except the fields of a variant and
the parts of a type without names for them.
-/

namespace ClientGen.Format

open Syntax

variable (write : Place → Tree → Layout)

/-! ## Heads and bodies -/

/-- An item whose head starts with a text, and what it holds in braces. -/
def withBody (head inner : Layout) : Layout :=
  stack step (head ++ word "\x7b" ++ lineEndIfFilled ++ inner ++ outdent) ++ word "\x7d" ++ lineEnd

/-- An item without anything in braces. -/
def withoutBody (inner : Layout) : Layout := stack step (inner ++ word ";") ++ lineEnd

/-- An item that is one line in a box of its own. -/
def inLine (inner : Layout) : Layout := stack 0 (inner ++ word ";") ++ lineEnd

/-- Forms that each have a comma behind them and a line of their own. -/
def lines (forms : List Tree) : Layout :=
  forms.flatMap fun t => write .plain t ++ word "," ++ lineEnd

/-! ## Constants and names of types -/

def constant (head name : String) (type : Tree) (value : Option Tree) : Layout :=
  inLine (word (head ++ name ++ ": ") ++ write .plain type
    ++ value.elim [] fun t => word " = " ++ bond ++ write .plain t)

/-- A type that a name stands for. -/
def meaning (type : Tree) : Layout := word "= " ++ bond ++ paragraph (-step) (write .plain type)

def synonym (head name : String) (all bounds predicates : List Tree) (type : Option Tree)
    (first : Bool) : Layout :=
  let head := word (head ++ name) ++ parameters write all
  let bounds := if bounds.isEmpty then [] else word ": " ++ plusLines (bounds.map (write .plain))
  match type with
  | some t =>
    if first then withoutBody (head ++ predicatesOnLine write predicates ++ meaning write t)
    else withoutBody (head ++ bounds ++ word " " ++ meaning write t
      ++ predicatesOnLineBeforeEnd write predicates)
  | none =>
    let inner := head ++ bounds ++ predicatesOnLineBeforeEnd write predicates
    if first then inLine inner else withoutBody inner

/-! ## Functions -/

/-- A function up to its conditions. -/
def signature (head name : String) (all inputs : List Tree) (variadic output : Option Tree) :
    Layout :=
  let inputs := inputs.map (write .plain)
  word (head ++ "fn " ++ name) ++ parameters write all ++ word "(" ++ bond
    ++ stack 0 (seam ++ (match variadic with
      | some t => followed inputs ++ write .plain t ++ seam
      | none => listed inputs) ++ outdent)
    ++ word ")" ++ stack (-step) (result write output)

/-- A function, with its body or without one. -/
def function (head name : String) (all inputs : List Tree) (variadic output : Option Tree)
    (predicates : List Tree) (body : Option Tree) : Layout :=
  let signature := signature write head name all inputs variadic output
  match body with
  | some (.block _ attributes body) =>
    withBody (signature ++ predicatesBeforeBody write predicates)
      (inOrder write attributes ++ statements write body)
  | _ => withoutBody (signature ++ predicatesBeforeEnd write predicates)

/-! ## Types -/

def fieldItem (visibility : String) (name : Option String) (type : Tree) : Layout :=
  word (visibility ++ name.elim "" (· ++ ": ")) ++ write .plain type

/-- Fields in parentheses, whose gaps belong to the box around them. -/
def positionalFields (fields : List Tree) : Layout :=
  word "(" ++ seam ++ listed (fields.map (write .plain)) ++ outdent ++ word ")"

def productType (head name : String) (all predicates : List Tree) (kind : FieldsKind)
    (fields : List Tree) : Layout :=
  let head := word (head ++ name) ++ parameters write all
  match kind with
  | .named => withBody (head ++ predicatesBeforeBody write predicates) (lines write fields)
  | .positional =>
    withoutBody (head ++ positionalFields write fields ++ predicatesBeforeEnd write predicates)
  | .absent => withoutBody (head ++ predicatesBeforeEnd write predicates)

/-- One of the forms of a value. -/
def variant (name : String) (kind : FieldsKind) (fields : List Tree) (discriminant : Option Tree) :
    Layout :=
  word name ++ (match kind with
    | .named =>
      word " \x7b"
        ++ stack step (blank ++ listedInBraces (fields.map (write .plain)) ++ outdent)
        ++ word "\x7d"
    | .positional => stack step (positionalFields write fields)
    | .absent => []) ++ after write " = " discriminant

/-- A type of values with several forms. -/
def sumType (head name : String) (all predicates variants : List Tree) : Layout :=
  withBody (word (head ++ name) ++ parameters write all ++ predicatesBeforeBody write predicates)
    (lines write variants)

/-! ## Interfaces and implementations -/

def interface (head name : String) (all bounds predicates attributes items : List Tree) : Layout :=
  withBody
    (word (head ++ name) ++ parameters write all
      ++ (if bounds.isEmpty then [] else word ": " ++ plusLine (bounds.map (write .plain)))
      ++ predicatesBeforeBody write predicates)
    (inOrder write attributes ++ inOrder write items)

def interfaceSynonym (head name : String) (all bounds predicates : List Tree) : Layout :=
  withoutBody (word (head ++ name) ++ parameters write all ++ word " = " ++ bond
    ++ plusLines (bounds.map (write .plain)) ++ predicatesBeforeEnd write predicates)

def implementation (head : String) (all : List Tree) (negative : Bool) (role : Option Tree)
    (type : Tree) (predicates attributes items : List Tree) : Layout :=
  withBody
    (paragraph (-step) (stack step (word (head ++ "impl") ++ parameters write all) ++ word " "
        ++ (match role with
          | some t => word (if negative then "!" else "") ++ write .plain t ++ blank ++ word "for "
          | none => [])
        ++ write .plain type)
      ++ predicatesBeforeBody write predicates)
    (inOrder write attributes ++ inOrder write items)

/-! ## What stands elsewhere -/

/-- A module, with its items or in a place of its own. -/
def submodule (head name : String) (attributes : List Tree) (items : Option (List Tree)) :
    Layout :=
  match items with
  | some items =>
    withBody (word (head ++ name ++ " ")) (inOrder write attributes ++ inOrder write items)
  | none => withoutBody (word (head ++ name))

def foreignItems (head : String) (attributes items : List Tree) : Layout :=
  withBody (word head) (inOrder write attributes ++ inOrder write items)

/-- What a module uses from elsewhere. -/
def importing (head : String) (what : Tree) : Layout :=
  word head ++ write .plain what ++ word ";" ++ lineEnd

/-- Whether the imported names end with several ones in braces. -/
def endsWithGroup : Tree → Bool
  | .importFrom _ what => endsWithGroup what
  | .importGroup _ => true
  | _ => false

/-- Imported names with commas between them; a line ends behind braces. -/
def importedParts : List Tree → Layout
  | [] => []
  | [last] => write .plain last
  | part :: rest =>
    write .plain part ++ word "," ++ (if endsWithGroup part then lineEnd else blank)
      ++ importedParts rest

def importGroup (parts : List Tree) : Layout :=
  word "\x7b" ++ stack step (seam ++ paragraph 0 (importedParts write parts) ++ lastComma
    ++ outdent) ++ word "\x7d"

end ClientGen.Format
