import Cartography.Number.Written

/-!
# Doubles with a count of digits

Three ways of writing the magnitude of a finite double with a given precision: so many places
behind the point, so many behind the first digit, or so many digits in all.

## Implementation notes

The double is taken as the exact quotient it is, and rounded once; a half goes to the even digit.
-/

namespace Cartography

/-- A magnitude as digits and the exponent of the first of them. -/
structure Rounded where
  digits : List Char
  exponent : Int

namespace Fixed

/-- The numerator of a magnitude. -/
def numerator (significand : Nat) (exponent : Int) : Nat := significand * Nat.pow 2 exponent.toNat

/-- The denominator of a magnitude. -/
def denominator (exponent : Int) : Nat := Nat.pow 2 (-exponent).toNat

/-- A point and digits behind it; the point stands alone only if it is asked for. -/
def fraction (keepPoint : Bool) (ds : List Char) : List Char :=
  if ds.isEmpty && !keepPoint then [] else '.' :: ds

/-- So many places behind the point. -/
def places (keepPoint : Bool) (count significand : Nat) (exponent : Int) : List Char :=
  let n := Double.roundHalfEven (numerator significand exponent * Nat.pow 10 count)
    (denominator exponent)
  let ds := Decimal.padLeft (count + 1) (Decimal.digitsOf n)
  ds.take (ds.length - count) ++ fraction keepPoint (ds.drop (ds.length - count))

/-- So many digits behind the first one, and its exponent. -/
def round (count significand : Nat) (exponent : Int) : Rounded :=
  if significand = 0 then ⟨Decimal.zeros (count + 1), 0⟩
  else
    let top := Shortest.place significand exponent - 1
    let shift := (count : Int) - top
    let n := Double.roundHalfEven (numerator significand exponent * Nat.pow 10 shift.toNat)
      (denominator exponent * Nat.pow 10 (-shift).toNat)
    if n = Nat.pow 10 (count + 1) then ⟨Decimal.digitsOf (Nat.pow 10 count), top + 1⟩
    else ⟨Decimal.digitsOf n, top⟩

/-- The mark, sign and digits of an exponent, two at least. -/
def exponentText (exponent : Int) : List Char :=
  'e' :: (if exponent < 0 then '-' else '+') ::
    Decimal.padLeft 2 (Decimal.digitsOf exponent.natAbs)

/-- One digit, so many behind it, and an exponent. -/
def scientific (keepPoint : Bool) (count significand : Nat) (exponent : Int) : List Char :=
  let r := round count significand exponent
  r.digits.take 1 ++ fraction keepPoint (r.digits.drop 1) ++ exponentText r.exponent

/-- So many digits in all, with an exponent only where it is small or large. Zeros at the end
go unless they are asked for. -/
def general (keepPoint : Bool) (count significand : Nat) (exponent : Int) : List Char :=
  let count := max 1 count
  let r := round (count - 1) significand exponent
  let ds := if keepPoint then r.digits else Decimal.trimZeros r.digits
  if r.exponent < -4 ∨ (count : Int) ≤ r.exponent then
    let ds := if ds.isEmpty then ['0'] else ds
    ds.take 1 ++ fraction keepPoint (ds.drop 1) ++ exponentText r.exponent
  else if r.exponent < 0 then
    '0' :: fraction keepPoint (Decimal.zeros (-r.exponent - 1).toNat ++ ds)
  else
    let whole := (r.exponent + 1).toNat
    let ds := ds ++ Decimal.zeros (whole - ds.length)
    ds.take whole ++ fraction keepPoint (ds.drop whole)

end Fixed

end Cartography
