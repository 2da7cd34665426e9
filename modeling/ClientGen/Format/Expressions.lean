import ClientGen.Format.Types

/-!
# Layouts of expressions and statements

A chain of members breaks before its points, an operator starts a line rather than ends one, and
the only argument of a call stands beside its parentheses if it has delimiters of its own.
-/

namespace ClientGen.Format

open Syntax

variable (write : Place → Tree → Layout)

/-! ## Kinds of expressions -/

/-- Whether the expression has delimiters of its own, and nothing before them. -/
def isEnclosed : Tree → Bool
  | .array _ | .block .. | .closure .. | .record .. | .tuple .. => true
  | _ => false

/-- The comparisons that end like an assignment. -/
def comparisons : List String := ["==", "<=", ">=", "!="]

/-- Whether the expression leaves a place or changes one, so that a semicolon follows it. -/
def takesSemicolon (t : Tree) : Bool :=
  match t.bare with
  | .assign .. | .jump .. => true
  | .binary _ operator _ => operator.endsWith "=" && !comparisons.contains operator
  | _ => false

/-- Whether the expression needs no semicolon as a statement. -/
def dropsSemicolon : Tree → Bool
  | .attributed _ inner => dropsSemicolon inner
  | .forLoop .. | .whileLoop .. => true
  | .conditional _ _ otherwise => match otherwise with
    | some t => dropsSemicolon t
    | none => true
  | _ => false

/-- Whether a brace behind the expression may start a line. -/
def breaksBeforeBrace : Tree → Bool
  | .attributed _ inner => breaksBeforeBrace inner
  | .assign .. | .await _ | .binary .. | .cast .. | .field .. | .index .. | .method .. => true
  | .jump _ _ (some t) | .call t _ | .matching _ t | .parenthesized t | .range _ _ (some t)
    | .marked _ t | .attempt t => breaksBeforeBrace t
  | _ => false

/-- Whether the expression may stand in braces without being taken for something else. -/
def fitsInBraces : Tree → Bool
  | .attributed _ inner => fitsInBraces inner
  | .assign t _ | .await t | .field t _ | .method t _ _ | .attempt t => fitsInBraces t
  | .binary t _ _ | .call t _ | .cast t _ | .index t _ | .range (some t) _ _ =>
    !t.isStatement && fitsInBraces t
  | _ => true

/-- Whether the expression is a name that is no wider than a step. -/
def isShortName : Tree → Bool
  | .path none _ false [.segment name] => name.utf8ByteSize ≤ step.toNat
  | _ => false

/-- Whether all elements are plain literals, strings and fractions excepted. -/
def areSimple (elements : List Tree) : Bool :=
  elements.all fun t => match t.bare with
    | .literal text => isSimpleLiteral text
    | _ => false

/-! ## Operators -/

/-- A value between two parts of an operator. -/
def binary (left : Tree) (operator : String) (right : Layout) : Layout :=
  paragraph step (paragraph (-step) (write .plain left) ++ blank ++ word (operator ++ " ")
    ++ right)

def assign (place value : Tree) : Layout :=
  paragraph 0 (write .plain place ++ word " = " ++ bond ++ write .plain value)

/-- A range; its marks must not be taken for a part of the number before them. -/
def range (start : Option Tree) (marks : String) (stop : Option Tree) : Layout :=
  let start := after write "" start
  start ++ word ((if endsWithPoint start then " " else "") ++ marks) ++ after write "" stop

/-! ## Members and calls -/

/-- A gap before a point, unless a short name starts the line. The point must not be taken for a
part of the number before it. -/
def memberGap (lineStart : Bool) (value : Tree) (base : Layout) : Layout :=
  if lineStart && isShortName value then []
  else [.gap { between := if endsWithPoint base then " " else "" }]

def member (lineStart : Bool) (value : Tree) (text : String) : Layout :=
  let base := write (.base lineStart) value
  base ++ memberGap lineStart value base ++ word ("." ++ text)

def arguments (all : List Tree) : Layout :=
  match all with
  | [only] => if isEnclosed only then write .plain only else
    stack step (seam ++ listed [write .plain only] ++ outdent)
  | all => stack step (seam ++ listed (all.map (write .plain)) ++ outdent)

/-- The arguments of a call in parentheses. -/
def call (arguments : List Tree) : Layout :=
  word "(" ++ Format.arguments write arguments ++ word ")"

/-- A method of a value; its arguments may be less deep than the box around them. -/
def method (lineStart outdents : Bool) (receiver head : Tree) (arguments : List Tree) : Layout :=
  member write lineStart receiver "" ++ write .plain head
    ++ stack (if outdents then -step else 0) (call write arguments)

def startPlace (lineStart : Bool) : Place := if lineStart then .lineStart else .plain

/-- A value before a point, which shares the box of the members around it. -/
def base (lineStart : Bool) (t : Tree) : Layout :=
  match t with
  | .await value => member write lineStart value "await"
  | .field value name => member write lineStart value name
  | .method receiver head arguments => method write lineStart false receiver head arguments
  | .call function arguments => write (.base false) function ++ call write arguments
  | .index value index =>
    write (.base lineStart) value ++ word "[" ++ write .plain index ++ word "]"
  | .attempt value => write (.base lineStart) value ++ word "?"
  | t => stack (-step) (write .plain t)

/-- A value with a suffix, where a line may start or not. -/
def suffixed (lineStart : Bool) (t : Tree) : Layout :=
  match t with
  | .await value => stack step (member write lineStart value "await")
  | .field value name => stack step (member write lineStart value name)
  | .method receiver head arguments =>
    stack step (method write lineStart (lineStart && isShortName receiver) receiver head arguments)
  | .call function arguments => write (startPlace lineStart) function ++ call write arguments
  | .index value index =>
    write (startPlace lineStart) value ++ word "[" ++ write .plain index ++ word "]"
  | .attempt value => write (startPlace lineStart) value ++ word "?"
  | t => write .plain t

/-! ## Values with delimiters -/

/-- An array; one of simple elements fills its lines. -/
def array (elements : List Tree) : Layout :=
  let inner := elements.map (write .plain)
  if areSimple elements then
    stack step (word "[" ++ seam ++ paragraph 0 (separated comma inner) ++ lastComma ++ outdent
      ++ word "]")
  else enclosed "[" "]" (listed inner)

/-- How wide a record is at most that stands on one line. -/
def recordWidth : Nat := 34

def record (path : Tree) (fields : List Tree) (rest : Option Tree) : Layout :=
  let fields := fields.map (write .plain)
  narrowStack recordWidth step (paragraph (-step) (write .plain path) ++ word " \x7b"
      ++ blankIfFilled
      ++ (match rest with
        | some t => followed fields ++ word ".." ++ write .plain t ++ blank
        | none => listedInBraces fields)
      ++ outdent)
    ++ word "\x7d"

def fieldValue (field : String) (value : Option Tree) : Layout :=
  match value with
  | some t => word (field ++ ": ") ++ paragraph 0 (write .plain t)
  | none => word field

/-! ## Blocks -/

def statements : List Tree → Layout
  | [] => []
  | [last] => write (.statement true) last
  | s :: rest => write (.statement false) s ++ statements rest

/-- A block that may stand on one line if it only has a value. -/
def smallBlock (attributes body : List Tree) : Layout :=
  if attributes.isEmpty && body.isEmpty then word "\x7b\x7d"
  else
    word "\x7b" ++ blank ++ inOrder write attributes
      ++ (match body with
        | [.run value false] => paragraph 0 (write .lineStart value) ++ blank
        | body => statements write body)
      ++ outdent ++ word "\x7d"

/-- A block of lines behind its head. -/
def longBlock (attributes body : List Tree) : Layout :=
  bond ++ stack step (lineEndIfFilled ++ inOrder write attributes ++ statements write body
    ++ outdent) ++ word "\x7d"

def labelText (label : Option String) : String := label.elim "" (· ++ ": ")

def blockHead : BlockKind → String
  | .plain => ""
  | .labelled label => label ++ ": "
  | .unchecked => "unsafe "
  | .constant => "const "
  | .asynchronous moves => if moves then "async move " else "async "
  | .attempt => "try "

def block (kind : BlockKind) (attributes body : List Tree) : Layout :=
  word (blockHead kind) ++ stack step (smallBlock write attributes body)

/-- A condition or a value before a brace. -/
def condition (t : Tree) : Layout :=
  stack 0 (write .plain t ++ if breaksBeforeBrace t then blank else word " ")

/-- What is done if a condition does not hold. -/
def otherwise : Tree → Layout
  | .conditional condition body next =>
    word "if " ++ stack (-step) (Format.condition write condition) ++ smallBlock write [] body
      ++ match next with
        | some t => word " else " ++ otherwise t
        | none => []
  | .block _ _ body => smallBlock write [] body
  | _ => []

def conditional (condition : Tree) (body : List Tree) (next : Option Tree) : Layout :=
  stack step (word "if " ++ stack (-step) (Format.condition write condition) ++ match next with
    | some t => smallBlock write [] body ++ word " else " ++ otherwise write t
    | none =>
      if body.isEmpty then word "\x7b\x7d"
      else word "\x7b" ++ lineEnd ++ statements write body ++ outdent ++ word "\x7d")

/-- A loop without a condition. -/
def forever (label : Option String) (attributes body : List Tree) : Layout :=
  word (labelText label ++ "loop \x7b") ++ stack step (lineEndIfFilled ++ inOrder write attributes
    ++ statements write body ++ outdent) ++ word "\x7d"

def whileLoop (label : Option String) (condition : Tree) (attributes body : List Tree) : Layout :=
  word (labelText label ++ "while ") ++ Format.condition write condition ++ word "\x7b"
    ++ longBlock write attributes body

def forLoop (label : Option String) (pattern items : Tree) (attributes body : List Tree) :
    Layout :=
  paragraph 0 (word (labelText label ++ "for ") ++ write .plain pattern ++ word " in " ++ bond
    ++ condition write items ++ word "\x7b" ++ longBlock write attributes body)

def choice (value : Tree) (attributes arms : List Tree) : Layout :=
  paragraph 0 (word "match " ++ condition write value ++ word "\x7b" ++ bond
    ++ stack step (lineEndIfFilled ++ inOrder write attributes
      ++ arms.flatMap (fun arm => write .plain arm ++ lineEnd) ++ outdent) ++ word "\x7d")

/-! ## Arms and closures -/

/-- The value of a block that holds nothing else, as deep as it goes. -/
def innermost : Tree → Tree
  | .block .plain [] [.run value false] => innermost value
  | t => t

/-- A value that gets delimiters, if it does not fit on its line: braces, if it may stand in them.
The texts stand behind it, if it gets delimiters or not. -/
def delimited (lineStart : Bool) (behind between : String) (t : Tree) : Layout :=
  let braces := fitsInBraces t
  stack step ([.gap { before := if braces then "\x7b" else "(" }]
    ++ write (startPlace lineStart) t
    ++ [.gap {
      indent := -step
      before := if braces && takesSemicolon t then ";" else ""
      behind := if braces then "\x7d" else ")" ++ behind
      between := between }])

/-- A block behind the arrow of an arm. -/
def armBlock (label : String) (attributes body : List Tree) : Layout :=
  word (label ++ "\x7b") ++ longBlock write attributes body

/-- What follows the arrow of an arm. -/
def armBody (t : Tree) : Layout :=
  let body := innermost t
  match body, body.bare with
  | .tuple [] _, _ => word "\x7b\x7d"
  | _, .block .plain attributes statements => armBlock write "" attributes statements
  | _, .block (.labelled label) attributes statements =>
    armBlock write (label ++ ": ") attributes statements
  | _, _ =>
    bond ++ delimited write true "," (if body.standsAlone then "" else ",") body

def arm (pattern : Tree) (guard : Option Tree) (body : Tree) : Layout :=
  paragraph 0 (write .plain pattern ++ after write " if " guard ++ word " => "
    ++ armBody write body)

/-- Whether what a closure gives stands beside its inputs without delimiters. -/
def standsBeside : Tree → Bool
  | .choice .. | .call .. => true
  | t => isEnclosed t

def closure (binder : Option Tree) (modes : String) (inputs : List Tree) (output : Option Tree)
    (body : Tree) : Layout :=
  let parts := if inputs.isEmpty then [] else
    seam ++ separated comma (inputs.map (write .plain))
  paragraph 0 (after write "" binder ++ word modes ++ match output with
    | some type =>
      stack step (word "|" ++ parts ++ (if inputs.isEmpty then [] else lastComma ++ outdent)
          ++ word "|")
        ++ word " -> " ++ write .plain type ++ word " " ++ bond ++ write .plain body
    | none =>
      stack step (word "|" ++ parts ++ word "|" ++ blank ++ outdent) ++ bond
        ++ if standsBeside body then write .plain body else delimited write false "" "" body)

/-- What leaves the place where it stands. -/
def jump (keyword : String) (label : Option String) (value : Option Tree) : Layout :=
  word (keyword ++ label.elim "" (" " ++ ·)) ++ after write " " value

/-- A pattern that a value is matched with. -/
def matching (pattern value : Tree) : Layout :=
  word "let " ++ paragraph 0 (write .plain pattern ++ word " = " ++ bond ++ write .plain value)

/-! ## Statements -/

def bind (pattern : Tree) (value otherwise : Option Tree) : Layout :=
  let head := word "let " ++ write .plain pattern
  let body := match value, otherwise with
    | some t, some (.block _ _ body) =>
      paragraph 0 (head ++ word " = " ++ bond ++ write .plain t ++ blank ++ word "else ") ++ bond
        ++ stack step (smallBlock write [] body)
    | some t, _ => paragraph 0 (head ++ word " = " ++ bond ++ write .plain t)
    | none, _ => paragraph 0 head
  body ++ word ";" ++ lineEnd

def run (value : Tree) (semicolon : Bool) : Layout :=
  let ends := if semicolon then !dropsSemicolon value else takesSemicolon value
  paragraph 0 (write .lineStart value ++ word (if ends then ";" else "")) ++ lineEnd

/-- A call of a macro as a statement. -/
def runMacro (m : MacroCall) (semicolon last : Bool) : Layout :=
  macroCall m none (semicolon || (!last && m.delimiter ≠ .brace)) ++ lineEnd

end ClientGen.Format
