import ClientGen.Json.Token

/-!
# The values of written numbers

An integer is exact if it fits sixty-four bits. Any other number is the double of its first digits,
those that fit sixty-four bits, multiplied or divided by a power of ten that is itself a double: two
roundings, so that the last place may be off by one.
-/

namespace ClientGen.Json

open ClientGen.Decimal

def digitValue (c : Char) : Nat := c.toNat - '0'.toNat

/-- The digits appended to the number while it fits sixty-four bits, and the digits left over. -/
def appendDigits (n : Nat) : List Char → Nat × List Char
  | [] => (n, [])
  | d :: ds =>
    let next := n * 10 + digitValue d
    if next < Nat.pow 2 64 then appendDigits next ds else (n, d :: ds)

/-- The double nearest to a power of ten. -/
def powerOfTen (k : Nat) : Float := Float.ofScientific 1 false k

/-- `f * 10 ^ e` by one multiplication or division; below the least power of ten by several
divisions, of which three reach zero. A result that is not finite is none. -/
def scaleByTen (f : Float) (e : Int) : Nat → Option Float
  | 0 => some f
  | fuel + 1 =>
    if e.natAbs ≤ 308 then
      if 0 ≤ e then
        let product := f * powerOfTen e.toNat
        if product.isInf then none else some product
      else some (f / powerOfTen e.natAbs)
    else if f == 0 then some f
    else if 0 ≤ e then none
    else scaleByTen (f / powerOfTen 308) (e + 308) fuel

def signedDouble (negative : Bool) (f : Float) : Number :=
  .double (.ofFloat (if negative then -f else f))

namespace Numeral

/-- The exponent, unless it does not fit thirty-one bits. -/
def exponentValue? (digits : List Char) : Option Nat :=
  let e := digits.foldl (fun n d => if n < Nat.pow 2 31 then n * 10 + digitValue d else n) 0
  if e < Nat.pow 2 31 then some e else none

/-- The value, unless it is too large for a double. -/
def value? (n : Numeral) : Option Number :=
  let (head, skipped) := appendDigits 0 n.whole
  if !n.isDecimal ∧ skipped.isEmpty then
    if !n.negative then some (.integer head)
    else if 0 < head ∧ head ≤ Nat.pow 2 63 then some (.integer (-head))
    else some (signedDouble true head.toUInt64.toFloat)
  else
    let (all, left) := appendDigits head n.fraction
    let start : Int := (skipped.length : Int) - (n.fraction.length - left.length : Nat)
    let f := all.toUInt64.toFloat
    match n.exponent with
    | none => (scaleByTen f start 4).map (signedDouble n.negative)
    | some (minus, digits) =>
      match exponentValue? digits with
      | some e => (scaleByTen f (if minus then start - e else start + e) 4).map
          (signedDouble n.negative)
      | none => if all ≠ 0 ∧ !minus then none else some (signedDouble n.negative 0)

end Numeral

end ClientGen.Json
