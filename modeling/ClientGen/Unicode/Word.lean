import ClientGen.Unicode.WordTables

/-! Which characters make up the words of a programming text. -/

namespace ClientGen.Unicode

/-- Whether a word may start with the character: the underscore or XID_Start. -/
def isWordStart (c : Char) : Bool :=
  c == '_' || (if c.toNat < 128 then c.isAlpha else wordStartRuns.contains c)

/-- Whether a word may go on with the character: XID_Continue. -/
def isWordContinue (c : Char) : Bool :=
  c == '_' || (if c.toNat < 128 then c.isAlphanum else wordContinueRuns.contains c)

end ClientGen.Unicode
