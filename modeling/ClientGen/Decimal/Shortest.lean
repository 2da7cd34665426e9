import ClientGen.Decimal.Double

/-!
# The shortest decimal that reads back as a given double

The reals that round to the double form an interval; for one digit, two digits and so on, the two
neighbours of the value on that decimal grid are tested, and the first grid with a neighbour in the
interval wins. Of two hits the nearer is taken, and of two equally near the even one.
-/

namespace ClientGen.Decimal

/-- `digits * 10 ^ exponent`. -/
structure Scaled where
  digits : Nat
  exponent : Int
deriving DecidableEq

def digitCount (n : Nat) : Nat := (Nat.toDigits 10 n).length

/-- Whether a ratio is at least `10 ^ k`. -/
def Ratio.atLeastPower (r : Ratio) (k : Int) : Bool :=
  if 0 ≤ k then r.den * Nat.pow 10 k.toNat ≤ r.num else r.den ≤ r.num * Nat.pow 10 (-k).toNat

/-- The greatest `k` with `10 ^ k` at most the ratio. The digit counts of its parts leave two
candidates. -/
def Ratio.decimalExponent (r : Ratio) : Int :=
  let k : Int := (digitCount r.num : Int) - digitCount r.den
  if r.atLeastPower k then k else k - 1

/-- The reals that round to a double: the bounds and the double itself over one denominator, and
whether the bounds belong to it. -/
structure Interval where
  lower : Nat
  middle : Nat
  upper : Nat
  den : Nat
  closed : Bool
deriving DecidableEq

/-- A bound is half a step away; below a power of two the steps are half as long. The bounds
themselves go to the even significand. -/
def Double.interval (d : Double) : Interval :=
  let m := d.significand
  let unit := Ratio.ofBinary 1 (d.exponent - 2)
  let below := if m = Nat.pow 2 52 && d.exponentField > 1 then 1 else 2
  { lower := (4 * m - below) * unit.num
    middle := 4 * m * unit.num
    upper := (4 * m + 2) * unit.num
    den := unit.den
    closed := m % 2 == 0 }

/-- Whether the decimal lies in the interval. -/
def Interval.contains (i : Interval) (x : Scaled) : Bool :=
  let r := Ratio.ofDecimal x.digits x.exponent
  let v := r.num * i.den
  if i.closed then i.lower * r.den ≤ v && v ≤ i.upper * r.den
  else i.lower * r.den < v && v < i.upper * r.den

/-- Whether `c * 10 ^ q` is the one of itself and its upper neighbour to take. -/
def Interval.prefersLower (i : Interval) (c : Nat) (q : Int) : Bool :=
  let r := Ratio.ofDecimal 1 q
  let twice := (2 * c + 1) * r.num * i.den
  let target := 2 * i.middle * r.den
  if target = twice then c % 2 == 0 else target < twice

/-- The neighbour of the value on the grid of `10 ^ q` to take, if one is in the interval. -/
def Interval.onGrid? (i : Interval) (q : Int) : Option Scaled :=
  let r := Ratio.ofDecimal 1 q
  let c := i.middle * r.den / (i.den * r.num)
  match i.contains ⟨c, q⟩, i.contains ⟨c + 1, q⟩ with
  | true, true => some (if i.prefersLower c q then ⟨c, q⟩ else ⟨c + 1, q⟩)
  | true, false => some ⟨c, q⟩
  | false, true => some ⟨c + 1, q⟩
  | false, false => none

/-- The decimal without the zeros at its end. -/
def Scaled.stripZeros (x : Scaled) : Nat → Scaled
  | 0 => x
  | fuel + 1 =>
    if x.digits ≠ 0 ∧ x.digits % 10 = 0 then
      Scaled.stripZeros ⟨x.digits / 10, x.exponent + 1⟩ fuel
    else x

/-- The shortest decimal in the interval of a finite double that is not zero. Seventeen digits
always suffice. -/
def Double.shortest (d : Double) : Scaled :=
  let i := d.interval
  let top := (Ratio.mk i.middle i.den).decimalExponent
  let grids := (List.range 17).map fun (n : Nat) => top - n
  match grids.findSome? i.onGrid? with
  | some x => x.stripZeros 17
  | none => ⟨d.significand, d.exponent⟩

end ClientGen.Decimal
