import ClientGen.Unicode.CaseTables

/-!
# Letter case of whole texts

A capital sigma is the one letter whose small form depends on what stands around it; all other
mappings are letter by letter, and some letters map to several.
-/

namespace ClientGen.Unicode

/-- Whether the character has the Uppercase property. -/
def isUppercase (c : Char) : Bool :=
  if c.toNat < 128 then c.isUpper else uppercaseRuns.contains c

/-- Whether the character has the Lowercase property. -/
def isLowercase (c : Char) : Bool :=
  if c.toNat < 128 then c.isLower else lowercaseRuns.contains c

def isCased (c : Char) : Bool :=
  if c.toNat < 128 then c.isAlpha else casedRuns.contains c

def isCaseIgnorable (c : Char) : Bool := caseIgnorableRuns.contains c

/-- The small form of one character, away from any context. -/
def lowerChars (c : Char) : List Char :=
  if c.toNat < 128 then [c.toLower]
  else match lowerExpansions.find? (·.1 == c.toNat) with
    | some (_, expansion) => expansion.map Char.ofNat
    | none => [(lowerShifts.target? c).getD c]

/-- The capital form of one character, which may be several characters. -/
def upperChars (c : Char) : List Char :=
  if c.toNat < 128 then [c.toUpper]
  else match upperExpansions.find? (·.1 == c.toNat) with
    | some (_, expansion) => expansion.map Char.ofNat
    | none => [(upperShifts.target? c).getD c]

/-- Whether the first character that is not Case_Ignorable is Cased. -/
def startsCased (cs : List Char) : Bool :=
  match cs.dropWhile isCaseIgnorable with
  | c :: _ => isCased c
  | [] => false

/-- The small form of a text whose preceding characters are `before`, nearest first. A capital
sigma that ends a word becomes the final sigma. -/
def lowercaseAfter (before : List Char) : List Char → List Char
  | [] => []
  | c :: rest =>
    let small :=
      if c = 'Σ' then [if startsCased before && !startsCased rest then 'ς' else 'σ']
      else lowerChars c
    small ++ lowercaseAfter (c :: before) rest

/-- The small form of a text. -/
def lowercase (cs : List Char) : List Char := lowercaseAfter [] cs

end ClientGen.Unicode
