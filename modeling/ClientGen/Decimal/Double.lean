/-!
# Double-precision numbers by their bits

A double is kept as the sixty-four bits that hold it; its exact value is a significand times a power
of two.
-/

namespace ClientGen.Decimal

structure Double where
  bits : UInt64
deriving DecidableEq, Inhabited

/-- A positive ratio of two naturals. -/
structure Ratio where
  num : Nat
  den : Nat
deriving DecidableEq

/-- `m * 2 ^ e` as a ratio. -/
def Ratio.ofBinary (m : Nat) (e : Int) : Ratio :=
  if 0 ≤ e then ⟨m * Nat.pow 2 e.toNat, 1⟩ else ⟨m, Nat.pow 2 (-e).toNat⟩

/-- `m * 10 ^ q` as a ratio. -/
def Ratio.ofDecimal (m : Nat) (q : Int) : Ratio :=
  if 0 ≤ q then ⟨m * Nat.pow 10 q.toNat, 1⟩ else ⟨m, Nat.pow 10 (-q).toNat⟩

namespace Double

/-- The double with the bits of a floating-point number. -/
def ofFloat (x : Float) : Double := ⟨x.toBits⟩

/-- The floating-point number with the bits of a double. -/
def toFloat (d : Double) : Float := Float.ofBits d.bits

/-- Whether the sign bit is set; it is for the negative zero. -/
def isNegative (d : Double) : Bool := d.bits >>> 63 != 0

def exponentField (d : Double) : Nat := ((d.bits >>> 52) &&& 0x7ff).toNat

/-- The stored fraction, without the leading one of a normal number. -/
def fractionField (d : Double) : Nat := (d.bits &&& 0xfffffffffffff).toNat

def significand (d : Double) : Nat :=
  if d.exponentField = 0 then d.fractionField else Nat.pow 2 52 + d.fractionField

/-- The power of two that the significand is multiplied by. -/
def exponent (d : Double) : Int :=
  if d.exponentField = 0 then -1074 else (d.exponentField : Int) - 1075

/-- The exact magnitude of a finite number. -/
def magnitude (d : Double) : Ratio := .ofBinary d.significand d.exponent

def isZero (d : Double) : Bool := d.significand == 0

/-- Whether the magnitude is a whole number. -/
def isWhole (d : Double) : Bool := d.magnitude.num % d.magnitude.den == 0

def wholePart (d : Double) : Nat := d.magnitude.num / d.magnitude.den

end Double

end ClientGen.Decimal
