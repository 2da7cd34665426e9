/-!
# Classes of characters

A class is given as arithmetic progressions of code points. An alternating run of capitals and small
letters is one entry of step two, so the tables stay short.
-/

namespace ClientGen.Unicode

/-- Runs of code points, each as first, last and step. -/
abbrev CharClass := Array (Nat × Nat × Nat)

/-- Runs of code points, each as first, last, step and the distance to the mapped code point. -/
abbrev CharShifts := Array (Nat × Nat × Nat × Int)

/-- Whether `n` is one of `first, first + step, …, last`. -/
def inRun (first last step n : Nat) : Bool :=
  first ≤ n && n ≤ last && (n - first) % step == 0

/-- Whether some run of the class holds the character. -/
def CharClass.contains (runs : CharClass) (c : Char) : Bool :=
  runs.any fun (first, last, step) => inRun first last step c.toNat

/-- The character that the first run holding `c` maps it to. -/
def CharShifts.target? (runs : CharShifts) (c : Char) : Option Char :=
  (runs.find? fun (first, last, step, _) => inRun first last step c.toNat).map
    fun (_, _, _, distance) => Char.ofNat (c.toNat + distance).toNat

end ClientGen.Unicode
