import ClientGen.Syntax.Token

/-!
# Source text as a tree

Types, patterns, expressions, statements and items are trees of one kind, because many forms are
shared: a tuple may hold types, patterns or values, and a path may name any of them. Words that
stand before a form and are written as they are read are kept as one text, the head of the form.
-/

namespace ClientGen.Syntax

/-- A call of a macro, whose tokens are kept as they are. -/
structure MacroCall where
  path : String
  delimiter : Delimiter
  tokens : List Token

/-- Where one stands in the rules that define a macro. -/
inductive RulePlace
  | start
  /-- Behind what the rule matches. -/
  | shape
  /-- Inside the arrow. -/
  | arrow
  /-- Behind the arrow. -/
  | arrowhead
  /-- Behind what the rule expands to. -/
  | expansion

/-- Where one stands behind a token, if it may stand there. -/
def RulePlace.next? : RulePlace → Token → Option RulePlace
  | start, .group .. => some shape
  | shape, .mark '=' true => some arrow
  | arrow, .mark '>' false => some arrowhead
  | arrowhead, .group .. => some expansion
  | expansion, .mark ';' false => some start
  | _, _ => none

inductive BlockKind
  | plain
  | labelled (label : String)
  /-- A block in which more is allowed than elsewhere. -/
  | unchecked
  | constant
  | asynchronous (moves : Bool)
  /-- A block that failures inside it leave. -/
  | attempt

/-- How the fields of a type are written. -/
inductive FieldsKind
  | named
  | positional
  | absent

inductive Tree
  -- Parts that stand anywhere.
  | literal (text : String)
  | lifetime (name : String)
  /-- Marks that are a form by themselves: `_`, `!`, `..` and `...`. -/
  | sign (text : String)
  /-- A form with attributes before it. -/
  | attributed (attributes : List Tree) (inner : Tree)
  | attributeName (inside : Bool) (path : String)
  | attributeTokens (inside : Bool) (path : String) (d : Delimiter) (tokens : List Token)
  | attributeValue (inside : Bool) (path : String) (value : Tree)
  /-- A tuple, and whether a comma follows its last part. -/
  | tuple (parts : List Tree) (comma : Bool)
  | parenthesized (inner : Tree)
  /-- A form with marks before it. -/
  | marked (marks : String) (inner : Tree)
  | invocation (call : MacroCall)
  /-- Something that may be read and has no usual written form. -/
  | unusual
  -- Paths.
  /-- A path. One that starts from a type may go through an interface, which is the first `bridge`
  segments. -/
  | path (base : Option Tree) (bridge : Nat) (absolute : Bool) (segments : List Tree)
  | segment (name : String)
  /-- A part of a path with arguments in angle brackets, which may have to stand behind colons. -/
  | segmentWith (name : String) (colons : Bool) (arguments : List Tree)
  /-- A part of a path that names a function type. -/
  | segmentCall (name : String) (inputs : List Tree) (output : Option Tree)
  /-- What a type or constant that belongs to an interface is. -/
  | argumentValue (head value : Tree)
  /-- What a type that belongs to an interface implements. -/
  | argumentBounds (head : Tree) (bounds : List Tree)
  -- Types.
  | slice (element : Tree)
  | repeated (element count : Tree)
  | functionType (binder : Option Tree) (head : String) (inputs : List Tree)
      (variadic : Option Tree) (output : Option Tree)
  | functionInput (name : Option String) (type : Tree)
  /-- A type of which only what it implements is said. -/
  | bounded (keyword : String) (bounds : List Tree)
  /-- Lifetimes that what follows binds. -/
  | binder (parameters : List Tree)
  | bound (wrapped optional : Bool) (binder : Option Tree) (path : Tree)
  | captures (names : List String)
  | lifetimeParameter (name : String) (bounds : List String)
  | typeParameter (name : String) (bounds : List Tree) (default : Option Tree)
  | constantParameter (name : String) (type : Tree) (default : Option Tree)
  | lifetimePredicate (name : String) (bounds : List String)
  | typePredicate (binder : Option Tree) (type : Tree) (bounds : List Tree)
  -- Patterns.
  | binding (modes name : String) (inner : Option Tree)
  | alternatives (cases : List Tree)
  | typed (inner type : Tree)
  | slicePattern (parts : List Tree)
  | recordPattern (path : Tree) (fields : List Tree) (rest : Option Tree)
  | fieldPattern (field : Option String) (inner : Tree)
  | patternTuple (parts : List Tree)
  /-- A path with patterns for its parts. -/
  | partsPattern (path : Tree) (parts : List Tree)
  -- Expressions.
  | array (elements : List Tree)
  | assign (place value : Tree)
  | binary (left : Tree) (operator : String) (right : Tree)
  | cast (value type : Tree)
  | range (start : Option Tree) (marks : String) (stop : Option Tree)
  | call (function : Tree) (arguments : List Tree)
  | method (receiver head : Tree) (arguments : List Tree)
  | field (value : Tree) (name : String)
  | index (value index : Tree)
  | attempt (value : Tree)
  | await (value : Tree)
  | closure (binder : Option Tree) (modes : String) (inputs : List Tree) (output : Option Tree)
      (body : Tree)
  | block (kind : BlockKind) (attributes statements : List Tree)
  | conditional (condition : Tree) (body : List Tree) (otherwise : Option Tree)
  | forever (label : Option String) (attributes body : List Tree)
  | whileLoop (label : Option String) (condition : Tree) (attributes body : List Tree)
  | forLoop (label : Option String) (pattern items : Tree) (attributes body : List Tree)
  | choice (value : Tree) (attributes arms : List Tree)
  | arm (pattern : Tree) (guard : Option Tree) (body : Tree)
  | matching (pattern value : Tree)
  /-- What leaves the place where it stands, with the label and the value it leaves with. -/
  | jump (keyword : String) (label : Option String) (value : Option Tree)
  | record (path : Tree) (fields : List Tree) (rest : Option Tree)
  | fieldValue (field : String) (value : Option Tree)
  -- Statements.
  | bind (pattern : Tree) (value otherwise : Option Tree)
  | run (value : Tree) (semicolon : Bool)
  | runMacro (call : MacroCall) (semicolon : Bool)
  | nothing
  -- Items.
  | constant (head name : String) (type : Tree) (value : Option Tree)
  /-- A name for a type; the conditions stand before the type or behind it. -/
  | synonym (head name : String) (parameters bounds predicates : List Tree) (type : Option Tree)
      (first : Bool)
  | function (head name : String) (parameters inputs : List Tree) (variadic output : Option Tree)
      (predicates : List Tree) (body : Option Tree)
  | productType (head name : String) (parameters predicates : List Tree) (kind : FieldsKind)
      (fields : List Tree)
  | fieldItem (visibility : String) (name : Option String) (type : Tree)
  | sumType (head name : String) (parameters predicates variants : List Tree)
  | variant (name : String) (kind : FieldsKind) (fields : List Tree) (discriminant : Option Tree)
  | interface (head name : String) (parameters bounds predicates attributes items : List Tree)
  | interfaceSynonym (head name : String) (parameters bounds predicates : List Tree)
  | implementation (head : String) (parameters : List Tree) (negative : Bool) (role : Option Tree)
      (type : Tree) (predicates attributes items : List Tree)
  | submodule (head name : String) (attributes : List Tree) (items : Option (List Tree))
  | foreignItems (head : String) (attributes items : List Tree)
  | importing (head : String) (what : Tree)
  | importFrom (name : String) (what : Tree)
  | importName (text : String)
  | importGroup (parts : List Tree)
  /-- An item that is one line of text. -/
  | line (text : String)
  | macroItem (call : MacroCall) (name : Option String)
deriving Inhabited

namespace Tree

/-- The form without the attributes before it. -/
def bare : Tree → Tree
  | attributed _ inner => inner.bare
  | t => t

/-- The form with attributes before it, if there are any. -/
def withAttributes (attributes : List Tree) (t : Tree) : Tree :=
  if attributes.isEmpty then t else attributed attributes t

def attributes : Tree → List Tree
  | attributed attributes _ => attributes
  | _ => []

/-- Whether an expression stands by itself where it ends, as blocks and most loops and branches do:
no comma has to follow it, and it starts no longer expression in a statement. -/
def standsAlone : Tree → Bool
  | attributed _ inner => inner.standsAlone
  | block (.asynchronous _) .. => false
  | block .. | conditional .. | forever .. | whileLoop .. | forLoop .. | choice .. => true
  | _ => false

/-- Whether an expression is a statement without a semicolon. -/
def isStatement : Tree → Bool
  | attributed _ inner => inner.isStatement
  | invocation m => m.delimiter = .brace
  | t => t.standsAlone

/-- The form with attributes before what it starts with. -/
def withFirstAttributes (attributes : List Tree) : Tree → Tree
  | assign place value => assign (place.withFirstAttributes attributes) value
  | binary left operator right => binary (left.withFirstAttributes attributes) operator right
  | cast value type => cast (value.withFirstAttributes attributes) type
  | t => t.withAttributes attributes

def isRange : Tree → Bool
  | range .. => true
  | _ => false

def endsWithBrace : Tree → Bool
  | attributed _ inner => inner.endsWithBrace
  | block .. | conditional .. | forever .. | whileLoop .. | forLoop .. | choice .. | record .. =>
    true
  | assign _ value | binary _ _ value | marked _ value | matching _ value => value.endsWithBrace
  | closure _ _ _ _ body => body.endsWithBrace
  | jump _ _ (some value) | range _ _ (some value) | cast _ value => value.endsWithBrace
  | invocation m => m.delimiter = .brace
  | _ => false

end Tree

end ClientGen.Syntax
