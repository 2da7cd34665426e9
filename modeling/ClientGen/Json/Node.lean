import ClientGen.Json.Token

/-!
# Tokens as a tree

The tree of a broken text has the break in it, at the place where it stands: a reader that walks the
tree in the order of the text meets the first problem first, whether the text is broken there or
holds a value that the reader did not expect.

The tree is built by folding the tokens over a stack of the containers that are open.
-/

namespace ClientGen.Json

inductive ArrayEnd
  | closed
  /-- The text ended after an element, or after the opening bracket. -/
  | ended
  /-- The text ended after a comma. -/
  | endedAfterComma
  | malformed
deriving DecidableEq

inductive ObjectEnd
  | closed
  /-- The text ended after an entry, or after the opening brace. -/
  | ended
  /-- The text ended after a comma. -/
  | endedAfterComma
  | malformed
  /-- Something other than a string stands in the place of a key. -/
  | oddKey (t : Token)
deriving DecidableEq

/-- A value of a text, or the break in its place. -/
inductive Node
  | fault (f : Fault)
  | null
  | bool (b : Bool)
  | number (n : Numeral)
  | text (t : RawText)
  | array (elements : List Node) (ending : ArrayEnd)
  | object (entries : List (RawText × Node)) (ending : ObjectEnd)
deriving Inhabited

/-- A container that an inner value waits to be put into, with what it holds so far, last first. -/
inductive Slot
  | element (elements : List Node)
  | entry (entries : List (RawText × Node)) (key : RawText)

/-- How far the tokens have been read, and what may stand next. `outer` are the open containers
around the one being read, innermost first. -/
inductive Progress
  /-- A value, for the first of the slots. -/
  | value (slots : List Slot)
  /-- An element or the closing bracket, after the opening one. -/
  | firstElement (outer : List Slot)
  /-- An element, after a comma. -/
  | nextElement (outer : List Slot) (elements : List Node)
  /-- A comma or the closing bracket. -/
  | afterElement (outer : List Slot) (elements : List Node)
  /-- A key or the closing brace, after the opening one. -/
  | firstKey (outer : List Slot)
  /-- A key, after a comma. -/
  | nextKey (outer : List Slot) (entries : List (RawText × Node))
  /-- The colon after a key. -/
  | colon (outer : List Slot) (entries : List (RawText × Node)) (key : RawText)
  /-- A comma or the closing brace. -/
  | afterEntry (outer : List Slot) (entries : List (RawText × Node))
  /-- Nothing, after the outermost value. -/
  | complete (root : Node)
  /-- More than the outermost value has been read. -/
  | surplus (root : Node)
  /-- The text is broken, and so is the tree. -/
  | broken (root : Node)

/-- The tree in which a node that cannot be completed stands in its slots. -/
def enclose (node : Node) : List Slot → Node
  | [] => node
  | .element elements :: outer =>
    enclose (.array (elements.reverse ++ [node]) .malformed) outer
  | .entry entries key :: outer =>
    enclose (.object (entries.reverse ++ [(key, node)]) .malformed) outer

/-- A complete node is put into its slot. -/
def place (node : Node) : List Slot → Progress
  | [] => .complete node
  | .element elements :: outer => .afterElement outer (node :: elements)
  | .entry entries key :: outer => .afterEntry outer ((key, node) :: entries)

/-- Reads a token where a value must stand. -/
def Token.asValue (slots : List Slot) : Token → Progress
  | .openBrace => .firstKey slots
  | .openBracket => .firstElement slots
  | .null => place .null slots
  | .bool b => place (.bool b) slots
  | .number n => place (.number n) slots
  | .text t =>
    if t.ending = .closed then place (.text t) slots else .broken (enclose (.text t) slots)
  | .fault f => .broken (enclose (.fault f) slots)
  | .closeBrace | .closeBracket | .comma | .colon => .broken (enclose (.fault .malformed) slots)

/-- Reads a token where a key must stand. -/
def Token.asKey (outer : List Slot) (entries : List (RawText × Node)) : Token → Progress
  | .text t =>
    if t.ending = .closed then .colon outer entries t
    else .broken (enclose (.object (entries.reverse ++ [(t, .fault .malformed)]) .malformed) outer)
  | t => .broken (enclose (.object entries.reverse (.oddKey t)) outer)

/-- Reads one token. -/
def Progress.step : Progress → Token → Progress
  | .value slots, t => t.asValue slots
  | .firstElement outer, .closeBracket => place (.array [] .closed) outer
  | .firstElement outer, t => t.asValue (.element [] :: outer)
  | .nextElement outer elements, .closeBracket =>
    .broken (enclose (.array elements.reverse .malformed) outer)
  | .nextElement outer elements, t => t.asValue (.element elements :: outer)
  | .afterElement outer elements, .closeBracket => place (.array elements.reverse .closed) outer
  | .afterElement outer elements, .comma => .nextElement outer elements
  | .afterElement outer elements, _ => .broken (enclose (.array elements.reverse .malformed) outer)
  | .firstKey outer, .closeBrace => place (.object [] .closed) outer
  | .firstKey outer, t => t.asKey outer []
  | .nextKey outer entries, t => t.asKey outer entries
  | .colon outer entries key, .colon => .value (.entry entries key :: outer)
  | .colon outer entries key, _ =>
    .broken (enclose (.object (entries.reverse ++ [(key, .fault .malformed)]) .malformed) outer)
  | .afterEntry outer entries, .closeBrace => place (.object entries.reverse .closed) outer
  | .afterEntry outer entries, .comma => .nextKey outer entries
  | .afterEntry outer entries, _ => .broken (enclose (.object entries.reverse .malformed) outer)
  | .complete root, _ => .surplus root
  | .surplus root, _ => .surplus root
  | .broken root, _ => .broken root

/-- A text as a tree, and whether something follows its value. -/
structure Document where
  root : Node
  surplus : Bool

/-- The tree where the text ends. -/
def Progress.finish : Progress → Document
  | .value slots => ⟨enclose (.fault .ended) slots, false⟩
  | .firstElement outer => ⟨enclose (.array [] .ended) outer, false⟩
  | .nextElement outer elements => ⟨enclose (.array elements.reverse .endedAfterComma) outer, false⟩
  | .afterElement outer elements => ⟨enclose (.array elements.reverse .ended) outer, false⟩
  | .firstKey outer => ⟨enclose (.object [] .ended) outer, false⟩
  | .nextKey outer entries => ⟨enclose (.object entries.reverse .endedAfterComma) outer, false⟩
  | .colon outer entries key =>
    ⟨enclose (.object (entries.reverse ++ [(key, .fault .ended)]) .malformed) outer, false⟩
  | .afterEntry outer entries => ⟨enclose (.object entries.reverse .ended) outer, false⟩
  | .complete root => ⟨root, false⟩
  | .surplus root => ⟨root, true⟩
  | .broken root => ⟨root, false⟩

def Document.ofText (text : String) : Document :=
  ((tokens text.toList).foldl Progress.step (.value [])).finish

end ClientGen.Json
