import Cartography.Number.Shortest

/-!
# Numbers as text

The written form of a double: its shortest digits, with the point among them or in front of an
exponent as the layout says.
-/

namespace Cartography

/-- How digits are laid out: the decimal exponents that are written without an exponent mark,
and the least number of exponent digits where there is one. -/
structure DecimalLayout where
  positionalFrom : Int
  positionalBelow : Int
  exponentDigits : Nat

/-- Exponents from -4 to 15 are written out; beyond them the exponent has two digits or more. -/
def DecimalLayout.plain : DecimalLayout := ⟨-4, 16, 2⟩

namespace Decimal

/-- A run of zeros. -/
def zeros (n : Nat) : List Char := List.replicate n '0'

/-- The decimal digits of a number, the leading one first. -/
def digitsOf (n : Nat) : List Char := Nat.toDigits 10 n

/-- Digits less the zeros at their end. -/
def trimZeros (ds : List Char) : List Char := (ds.reverse.dropWhile (· == '0')).reverse

/-- A text brought to a width by zeros in front. -/
def padLeft (width : Nat) (ds : List Char) : List Char := zeros (width - ds.length) ++ ds

/-- Digits with a point after the first `point` of them, and at least one digit on each side. -/
def positional (ds : List Char) (point : Int) : List Char :=
  if point ≤ 0 then '0' :: '.' :: (zeros (-point).toNat ++ ds)
  else
    let whole := point.toNat
    if ds.length ≤ whole then ds ++ zeros (whole - ds.length) ++ ['.', '0']
    else ds.take whole ++ '.' :: ds.drop whole

/-- Digits with a point after the first of them and an exponent. -/
def scientific (layout : DecimalLayout) (ds : List Char) (exponent : Int) : List Char :=
  let mantissa := match ds with
    | [] => ['0']
    | [d] => [d]
    | d :: rest => d :: '.' :: rest
  let sign := if exponent < 0 then '-' else '+'
  mantissa ++ 'e' :: sign :: padLeft layout.exponentDigits (digitsOf exponent.natAbs)

/-- The written form of a positive decimal. -/
def written (layout : DecimalLayout) (x : Decimal) : List Char :=
  let all := digitsOf x.digits
  let ds := trimZeros all
  let point : Int := all.length + x.power
  if layout.positionalFrom ≤ point - 1 ∧ point - 1 < layout.positionalBelow then
    positional ds point
  else scientific layout ds (point - 1)

end Decimal

namespace Double

/-- The text of a magnitude. -/
def magnitudeText : Nat → Int → List Char
  | 0, _ => ['0', '.', '0']
  | significand, exponent => (Shortest.digits significand exponent).written .plain

/-- The text of a double: its shortest digits behind its sign. -/
def text : Double → String
  | .finite negative significand exponent =>
      let body := magnitudeText significand exponent
      String.ofList (if negative then '-' :: body else body)
  | .infinite negative => if negative then "-inf" else "inf"
  | .undefined => "nan"

end Double

end Cartography
