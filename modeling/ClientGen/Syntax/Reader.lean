import ClientGen.Syntax.Tree

/-!
# Readers of tokens

A reader takes tokens from the start of those that are left, or fails. What it decides by looking
ahead are conditions on the tokens. Repetition ends because nothing is repeated more often than
there are tokens.
-/

namespace ClientGen.Syntax

structure Source where
  tokens : List Token
  /-- Whether something has been read that has no usual written form. -/
  hasUnusual : Bool

abbrev Reader (α : Type) := StateT Source Option α

/-! ## Size -/

mutual

/-- The number of tokens in a token, the ends of groups included. -/
def Token.size : Token → Nat
  | .group _ inner => Token.listSize inner + 2
  | _ => 1

/-- The number of tokens in several tokens. -/
def Token.listSize : List Token → Nat
  | [] => 0
  | t :: rest => t.size + Token.listSize rest

end

/-! ## Conditions on tokens -/

/-- The words that stand for no name. -/
def reservedWords : List String :=
  ["_", "abstract", "as", "async", "await", "become", "box", "break", "const", "continue", "crate",
    "do", "dyn", "else", "enum", "extern", "false", "final", "fn", "for", "if", "impl", "in", "let",
    "loop", "macro", "match", "mod", "move", "mut", "override", "priv", "pub", "ref", "return",
    "Self", "self", "static", "struct", "super", "trait", "true", "try", "type", "typeof", "unsafe",
    "unsized", "use", "virtual", "where", "while", "yield"]

/-- Whether the word can be a name. -/
def isName (word : String) : Bool := !reservedWords.contains word

/-- The tokens behind some marks; all but the last of them are followed by another one directly. -/
def afterMarks? : List Char → List Token → Option (List Token)
  | [], ts => some ts
  | [c], .mark c' _ :: rest => if c = c' && c ≠ '\'' then some rest else none
  | c :: cs, .mark c' joint :: rest =>
    if c = c' && c ≠ '\'' && joint then afterMarks? cs rest else none
  | _, _ => none

namespace Token

/-- Whether the tokens start with the marks. -/
def starts (marks : String) (ts : List Token) : Bool := (afterMarks? marks.toList ts).isSome

def startsWord (w : String) : List Token → Bool
  | word t :: _ => t == w
  | _ => false

def startsAnyWord : List Token → Bool
  | word _ :: _ => true
  | _ => false

def startsName : List Token → Bool
  | word t :: _ => isName t
  | _ => false

def startsLifetime : List Token → Bool
  | mark '\'' true :: word _ :: _ => true
  | _ => false

/-- Whether the tokens start with a group in the delimiters. -/
def startsGroup (d : Delimiter) : List Token → Bool
  | group d' _ :: _ => d == d'
  | _ => false

def isNumber (text : String) : Bool := text.toList.head?.any isDigit

/-- Whether the tokens start with a literal, which may be a negative number. -/
def startsLiteral : List Token → Bool
  | literal _ :: _ => true
  | word t :: _ => t == "true" || t == "false"
  | mark '-' _ :: literal t :: _ => isNumber t
  | _ => false

/-- Whether the tokens start with a literal that stands for what could not be read. -/
def startsUnreadable : List Token → Bool
  | literal t :: _ => t == unreadable
  | _ => false

def startsString : List Token → Bool
  | literal t :: _ => ["\"", "r\"", "r#"].any fun start => start.toList.isPrefixOf t.toList
  | _ => false

/-- The tokens behind the first one; a lifetime counts as one. -/
def behind : List Token → List Token
  | mark '\'' true :: word _ :: rest => rest
  | _ :: rest => rest
  | [] => []

/-- Whether the tokens start with one of the words. -/
def startsOneOf (words : List String) (ts : List Token) : Bool :=
  words.any fun w => startsWord w ts

/-- Whether the tokens start with a word that a path may start with. -/
def startsSegment (ts : List Token) : Bool :=
  startsName ts || startsOneOf ["self", "Self", "super", "crate"] ts

end Token

/-! ## Single tokens -/

namespace Reader

def tokens : Reader (List Token) := do return (← get).tokens

/-- Whether the condition holds of the tokens that are left. -/
def sees (condition : List Token → Bool) : Reader Bool := do return condition (← tokens)

def goOn (ts : List Token) : Reader Unit := modify fun s => { s with tokens := ts }

def mark (marks : String) : Reader Unit := do
  match afterMarks? marks.toList (← tokens) with
  | some rest => goOn rest
  | none => failure

/-- Takes the marks, if they are there. -/
def mark? (marks : String) : Reader Bool := do
  match afterMarks? marks.toList (← tokens) with
  | some rest => goOn rest; return true
  | none => return false

def anyWord : Reader String := do
  match ← tokens with
  | .word t :: rest => goOn rest; return t
  | _ => failure

def word (w : String) : Reader Unit := do
  if (← anyWord) != w then failure

def word? (w : String) : Reader Bool := do
  if ← sees (Token.startsWord w) then word w; return true
  else return false

/-- Takes the word, if it is there, and gives it with a blank behind it. -/
def head? (w : String) : Reader String := do
  return if ← word? w then w ++ " " else ""

def name : Reader String := do
  let t ← anyWord
  if isName t then return t else failure

/-- Takes a name or the sign for none. -/
def nameOrBlank : Reader String := do
  if ← sees (Token.startsWord "_") then anyWord else name

def lifetime : Reader String := do
  match ← tokens with
  | .mark '\'' true :: .word t :: rest => goOn rest; return "'" ++ t
  | _ => failure

def lifetime? : Reader (Option String) := do
  if ← sees Token.startsLifetime then return some (← lifetime)
  else return none

/-- Takes a literal. One that stands for what could not be read has no usual written form. -/
def literal : Reader String := do
  if !(← sees Token.startsLiteral) then failure
  if ← sees Token.startsUnreadable then modify fun s => { s with hasUnusual := true }
  match ← tokens with
  | .mark _ _ :: .literal t :: rest => goOn rest; return "-" ++ t
  | .literal t :: rest => goOn rest; return t
  | .word t :: rest => goOn rest; return t
  | _ => failure

def anyGroup : Reader (Delimiter × List Token) := do
  match ← tokens with
  | .group d inner :: rest => goOn rest; return (d, inner)
  | _ => failure

/-! ## Together -/

variable {α : Type}

def atEnd : Reader Bool := sees List.isEmpty

/-- Takes a group in the delimiters, whose tokens the reader has to take all of. -/
def group (d : Delimiter) (inside : Reader α) : Reader α := do
  let (d', inner) ← anyGroup
  if d != d' then failure
  let rest ← tokens
  goOn inner
  let a ← inside
  if !(← atEnd) then failure
  goOn rest
  return a

/-- Reads, or takes nothing where that fails. -/
def attempt? (r : Reader α) : Reader (Option α) := fun s =>
  match r s with
  | some (a, s) => some (some a, s)
  | none => some (none, s)

/-- Notes that something has no usual written form. -/
def unusual : Reader Tree := do
  modify fun s => { s with hasUnusual := true }
  return .unusual

/-- Reads as long as the step gives something, at most so many times. -/
def collectUpTo (step : Reader (Option α)) : Nat → Reader (List α)
  | 0 => failure
  | n + 1 => do
    match ← step with
    | none => return []
    | some a => return a :: (← collectUpTo step n)

/-- Reads as long as the step gives something. -/
def collect (step : Reader (Option α)) : Reader (List α) := do
  collectUpTo step ((← tokens).length + 1)

/-- Reads items up to where the condition holds. -/
def upTo (stop : List Token → Bool) (item : Reader α) : Reader (List α) :=
  collect do if ← sees stop then return none else return some (← item)

/-- Reads items up to the end. -/
def all (item : Reader α) : Reader (List α) := upTo List.isEmpty item

/-- Reads at most so many items with commas between them, up to where the condition holds. -/
def commasUpTo (stop : List Token → Bool) (item : Reader α) : Nat → Reader (List α × Bool)
  | 0 => failure
  | n + 1 => do
    if ← sees stop then return ([], true)
    let a ← item
    if ← sees stop then return ([a], false)
    mark ","
    let (rest, comma) ← commasUpTo stop item n
    return (a :: rest, comma)

/-- Reads items with commas between them, up to where the condition holds, and whether a comma
follows the last one. -/
def commasUntil (stop : List Token → Bool) (item : Reader α) : Reader (List α × Bool) := do
  commasUpTo stop item ((← tokens).length + 1)

/-- Reads items with commas between them, up to the end. -/
def commas (item : Reader α) : Reader (List α) := do
  return (← commasUntil List.isEmpty item).1

/-- Reads at most so many items with plus signs between them. -/
def plusUpTo (stop : List Token → Bool) (item : Reader α) : Nat → Reader (List α)
  | 0 => failure
  | n + 1 => do
    if ← sees stop then return []
    let a ← item
    if ← mark? "+" then return a :: (← plusUpTo stop item n) else return [a]

/-- Reads items with plus signs between them, up to where the condition holds if one is missing. -/
def plusSeparated (stop : List Token → Bool) (item : Reader α) : Reader (List α) := do
  plusUpTo stop item ((← tokens).length + 1)

end Reader

/-! ## What refers to each other -/

/-- The forms that other forms are made of, and that are read by going one level deeper. -/
inductive Rule
  /-- A type, with or without a sum of what it implements. -/
  | type (sums : Bool)
  /-- One of the things that a type implements; a list of what it captures and a bound for constants
  may be allowed. -/
  | bound (captures constants : Bool)
  /-- An expression, in which records may stand or not. -/
  | expression (records : Bool)
  /-- An expression without operators between two values. -/
  | operand (records : Bool)
  /-- What an operator of at least a rank makes of a value. -/
  | operation (records : Bool) (left : Tree) (least : Nat)
  /-- An expression that ends early: a block is not the start of a longer one. -/
  | earlyExpression
  /-- A pattern of one or several alternatives. -/
  | pattern
  /-- A pattern of one alternative. -/
  | singlePattern
  /-- The inside of a block, with or without attributes for what encloses it. -/
  | body (attributes : Bool)
  /-- Fields with names. -/
  | fields
  | item

end ClientGen.Syntax
