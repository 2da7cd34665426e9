import ClientGen.Decimal.Shortest

/-!
# Written forms of doubles

There is the positional notation, which source text uses, and the form of documents, which turns to
an exponent for very small and very large numbers.
-/

namespace ClientGen.Decimal

def digitsOf (n : Nat) : List Char := Nat.toDigits 10 n

/-- The digits with a point so that they denote `x`, and a zero before a leading point. -/
def Scaled.positional (x : Scaled) : List Char :=
  let ds := digitsOf x.digits
  if 0 ≤ x.exponent then ds ++ List.replicate x.exponent.toNat '0'
  else
    let places := (-x.exponent).toNat
    if places < ds.length then ds.take (ds.length - places) ++ '.' :: ds.drop (ds.length - places)
    else '0' :: '.' :: (List.replicate (places - ds.length) '0' ++ ds)

/-- One digit before the point, and an exponent with its sign. -/
def Scaled.scientific (x : Scaled) : List Char :=
  let ds := digitsOf x.digits
  let e := x.exponent + (ds.length : Int) - 1
  let mantissa := match ds with
    | first :: second :: rest => first :: '.' :: second :: rest
    | short => short
  mantissa ++ 'e' :: (if e < 0 then '-' else '+') :: digitsOf e.natAbs

/-- The text with a minus sign if the double is negative. -/
def Double.signed (d : Double) (text : List Char) : String :=
  String.ofList (if d.isNegative then '-' :: text else text)

/-- The form of source text: never an exponent, and one place for a whole number. -/
def Double.sourceText (d : Double) : String :=
  d.signed <|
    if d.isWhole then digitsOf d.wholePart ++ ".0".toList else d.shortest.positional

/-- The form of documents: the fewest digits, with an exponent below `1e-5` and from `1e16` on, and
at least one place otherwise. -/
def Double.documentText (d : Double) : String :=
  d.signed <|
    if d.isZero then "0.0".toList
    else
      let x := d.shortest
      let e := x.exponent + (digitCount x.digits : Int) - 1
      if -5 ≤ e ∧ e < 16 then
        if 0 ≤ x.exponent then x.positional ++ ".0".toList else x.positional
      else x.scientific

end ClientGen.Decimal
