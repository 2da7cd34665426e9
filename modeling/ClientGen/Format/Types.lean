import ClientGen.Format.Tokens
import ClientGen.Text.DocComment

/-!
# Layouts of paths, types and patterns

Lifetimes stand before all other arguments and parameters, whatever their order was.
-/

namespace ClientGen.Format

open Syntax

inductive Place
  | plain
  /-- Where a line may start. -/
  | lineStart
  /-- Before the point of a member; whether a line may start there. -/
  | base (lineStart : Bool)
  /-- Among the statements of a block, perhaps as the last one. -/
  | statement (last : Bool)

def Place.startsLine : Place → Bool
  | lineStart => true
  | _ => false

variable (write : Place → Tree → Layout)

/-- Forms that follow each other. -/
def inOrder (forms : List Tree) : Layout := forms.flatMap (write .plain)

/-- A form behind a text, if there is one. -/
def after (text : String) (form : Option Tree) : Layout :=
  form.elim [] fun t => word text ++ write .plain t

/-! ## Attributes -/

/-- The form of an attribute, for what encloses it or for what follows. -/
def attributeForm (inside : Bool) (inner : Layout) : Layout :=
  word (if inside then "#![" else "#[") ++ inner ++ word "]" ++ blank

/-- The comment that an attribute with a value is written as, if it can be one. -/
def attributeComment? (inside : Bool) (path : String) (value : Tree) : Option String :=
  match value with
  | .literal text => (stringText? text).bind fun s =>
    if path = "doc" then Text.docComment? (if inside then .inside else .outside) s
    else if path = "comment" then Text.remark? s
    else none
  | _ => none

def attributeValue (inside : Bool) (path : String) (value : Tree) : Layout :=
  match attributeComment? inside path value with
  | some text => word text ++ lineEnd
  | none => attributeForm inside (word (path ++ " = ") ++ write .plain value)

/-! ## Paths -/

/-- Whether the form is a lifetime, or a parameter for one. -/
def isLifetime : Tree → Bool
  | .attributed _ inner => isLifetime inner
  | .lifetime _ | .lifetimeParameter _ _ => true
  | _ => false

def lifetimesFirst (forms : List Tree) : Layout :=
  listed ((forms.filter isLifetime ++ forms.filter (!isLifetime ·)).map (write .plain))

/-- Arguments in angle brackets; there are no brackets without any. -/
def angleArguments (colons : Bool) (arguments : List Tree) : Layout :=
  if arguments.isEmpty then []
  else word (if colons then "::" else "") ++ enclosed "<" ">" (lifetimesFirst write arguments)

def result (output : Option Tree) : Layout := after write " -> " output

/-- A part of a path that names a function type. -/
def segmentCall (name : String) (inputs : List Tree) (output : Option Tree) : Layout :=
  word name ++ stack step (word "(" ++ seam ++ listed (inputs.map (write .plain)) ++ outdent
    ++ word ")" ++ result write output)

/-- Parts of a path, each behind colons. -/
def segments (parts : List Tree) : Layout :=
  parts.flatMap fun part => word "::" ++ write .plain part

/-- A path, which may start from a type in its role as an interface. -/
def path (base : Option Tree) (bridge : Nat) (absolute : Bool) (parts : List Tree) : Layout :=
  let start (parts : List Tree) : Layout :=
    (if absolute then word "::" else []) ++ separated (word "::") (parts.map (write .plain))
  match base with
  | none => start parts
  | some t =>
    word "<" ++ write .plain t
      ++ (if bridge = 0 then [] else word " as " ++ start (parts.take bridge))
      ++ word ">" ++ segments write (parts.drop bridge)

/-- What an argument says of a type that belongs to an interface. -/
def argumentBounds (head : Tree) (bounds : List Tree) : Layout :=
  write .plain head ++ paragraph step
    (if bounds.isEmpty then [] else word ": " ++ plusLines (bounds.map (write .plain)))

/-! ## Types -/

/-- A tuple of types or values; a single one has a comma behind it. -/
def tuple (parts : List Tree) : Layout :=
  enclosed "(" ")" <| match parts with
    | [part] => write .plain part ++ word "," ++ seam
    | parts => listed (parts.map (write .plain))

def functionType (binder : Option Tree) (head : String) (inputs : List Tree)
    (variadic output : Option Tree) : Layout :=
  let inputs := inputs.map (write .plain)
  after write "" binder ++ word head
    ++ enclosed "fn(" ")" (match variadic with
      | some t => followed inputs ++ write .plain t ++ seam
      | none => listed inputs)
    ++ result write output

def functionInput (name : Option String) (type : Tree) : Layout :=
  word (name.elim "" (· ++ ": ")) ++ write .plain type

/-- A type of which only what it implements is said. -/
def boundedType (keyword : String) (bounds : List Tree) : Layout :=
  word (if keyword = "" then "dyn " else keyword) ++ plusLine (bounds.map (write .plain))

def binder (parameters : List Tree) : Layout :=
  word "for<" ++ separated (word ", ") (parameters.map (write .plain)) ++ word "> "

/-- One of the things that a type implements. -/
def bound (wrapped optional : Bool) (binder : Option Tree) (path : Tree) : Layout :=
  word (if wrapped then "(" else "") ++ word (if optional then "?" else "")
    ++ after write "" binder ++ write .plain path ++ word (if wrapped then ")" else "")

/-! ## Parameters -/

def lifetimeParameter (name : String) (bounds : List String) : Layout :=
  word (name ++ if bounds.isEmpty then "" else ": " ++ " + ".intercalate bounds)

def typeParameter (name : String) (bounds : List Tree) (default : Option Tree) : Layout :=
  word name ++ paragraph step
    ((if bounds.isEmpty then [] else word ": " ++ plusLines (bounds.map (write .plain)))
      ++ default.elim [] fun t => blank ++ word "= " ++ write .plain t)

/-- A parameter that stands for a value. -/
def constantParameter (name : String) (type : Tree) (default : Option Tree) : Layout :=
  word ("const " ++ name ++ ": ") ++ write .plain type ++ after write " = " default

def parameters (all : List Tree) : Layout :=
  if all.isEmpty then []
  else word "<" ++ stack 0 (seam ++ lifetimesFirst write all ++ outdent) ++ word ">"

/-- What follows the colon of a condition. -/
def conditionBounds (indent : Int) (bounds : List Layout) : Layout :=
  word ":" ++ paragraph indent (if bounds.isEmpty then [] else word " " ++ plusLines bounds)

def lifetimePredicate (name : String) (bounds : List String) : Layout :=
  word name ++ conditionBounds step (bounds.map word)

def typePredicate (binder : Option Tree) (type : Tree) (bounds : List Tree) : Layout :=
  after write "" binder ++ write .plain type
    ++ conditionBounds (if bounds.length = 1 then 0 else step) (bounds.map (write .plain))

/-! ## Conditions -/

/-- Conditions on lines of their own, and where what follows them starts. -/
def predicatesBeforeBody (predicates : List Tree) : Layout :=
  if predicates.isEmpty then word " "
  else lineEnd ++ outdent ++ word "where" ++ lineEnd
    ++ predicates.flatMap (fun p => write .plain p ++ word "," ++ lineEnd) ++ outdent

/-- Conditions on lines of their own, before a semicolon. -/
def predicatesBeforeEnd (predicates : List Tree) : Layout :=
  if predicates.isEmpty then []
  else lineEnd ++ outdent ++ word "where" ++ lineEnd
    ++ separated (word "," ++ lineEnd) (predicates.map (write .plain))

/-- Conditions that may stand on one line, and where what follows them starts. -/
def predicatesOnLine (predicates : List Tree) : Layout :=
  if predicates.isEmpty then word " "
  else blank ++ outdent ++ word "where" ++ blank
    ++ listedInBraces (predicates.map (write .plain)) ++ outdent

/-- Conditions that may stand on one line, before a semicolon. -/
def predicatesOnLineBeforeEnd (predicates : List Tree) : Layout :=
  if predicates.isEmpty then []
  else blank ++ outdent ++ word "where" ++ blank
    ++ separated comma (predicates.map (write .plain))

/-! ## Patterns -/

/-- Whether the form says nothing but a value or nothing at all. -/
def isSimplePattern : Tree → Bool
  | .attributed _ inner => isSimplePattern inner
  | .literal _ | .sign "_" => true
  | _ => false

/-- Alternatives; simple ones fill their lines. -/
def alternatives (cases : List Tree) : Layout :=
  let inner := separated (blank ++ word "| ") (cases.map (write .plain))
  if cases.all isSimplePattern then paragraph 0 inner else stack 0 inner

def binding (modes name : String) (inner : Option Tree) : Layout :=
  word (modes ++ name) ++ after write " @ " inner

/-- A pattern of parts in brackets, whose gaps belong to the box around it. -/
def slicePattern (parts : List Tree) : Layout :=
  word "[" ++ listed (parts.map (write .plain)) ++ word "]"

def recordPattern (path : Tree) (fields : List Tree) (rest : Option Tree) : Layout :=
  let fields := fields.map (write .plain)
  stack step (write .plain path ++ word " \x7b" ++ blankIfFilled
      ++ (match rest with
        | some t => followed fields ++ write .plain t ++ blank
        | none => listedInBraces fields)
      ++ outdent)
    ++ word "\x7d"

def fieldPattern (field : Option String) (inner : Tree) : Layout :=
  word (field.elim "" (· ++ ": ")) ++ write .plain inner

/-- Whether the pattern stands for any parts. -/
def isRest : Tree → Bool
  | .attributed _ inner => isRest inner
  | .sign ".." => true
  | _ => false

/-- A pattern of a tuple; a single part that is one has a comma behind it. -/
def patternTuple (parts : List Tree) : Layout :=
  enclosed "(" ")" <| match parts with
    | [] => []
    | [part] => write .plain part ++ word (if isRest part then "" else ",") ++ seam
    | parts => separated comma (parts.map (write .plain)) ++ seam

def partsPattern (path : Tree) (parts : List Tree) : Layout :=
  write .plain path ++ enclosed "(" ")" (listed (parts.map (write .plain)))

end ClientGen.Format
