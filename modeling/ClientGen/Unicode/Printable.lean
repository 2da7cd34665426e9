import ClientGen.Unicode.PrintTables

/-! Which characters are shown as they are when a text is quoted. -/

namespace ClientGen.Unicode

/-- Whether the character shows on a printed line: it is assigned, no control, no format, and no
separator but the space. -/
def isPrintable (c : Char) : Bool :=
  if c.toNat < 128 then 32 ≤ c.toNat && c.toNat < 127 else !unprintableRuns.contains c

/-- Whether the character attaches to the one before it. -/
def isGraphemeExtend (c : Char) : Bool :=
  if c.toNat < 128 then false else graphemeExtendRuns.contains c

end ClientGen.Unicode
