/-!
# Double-precision numbers

A double is a sign, a significand and a power of two, all of them whole numbers, so that
rounding, negation and the test for an integer are exact arithmetic.

## Implementation notes

Every finite double built here is in the form `Double.ofRatio` gives it: the significand is
below `2 ^ 53`, the exponent at least `-1074`, and one of the two bounds is met. Two doubles of
one value and one sign are therefore equal.
-/

namespace Cartography

/-- A finite double is `significand * 2 ^ exponent` with its sign kept apart, so that the two
zeros differ. -/
inductive Double
  | finite (negative : Bool) (significand : Nat) (exponent : Int)
  | infinite (negative : Bool)
  | undefined
  deriving DecidableEq, Inhabited

namespace Double

/-- The least exponent of a finite double. -/
def leastExponent : Int := -1074

/-- The greatest exponent of a finite double. -/
def greatestExponent : Int := 971

/-- The whole number nearest to a quotient; a half goes to the even neighbour. -/
def roundHalfEven (numerator denominator : Nat) : Nat :=
  let low := numerator / denominator
  let rest := 2 * (numerator % denominator)
  if rest < denominator then low
  else if denominator < rest then low + 1
  else if low % 2 = 0 then low
  else low + 1

/-- A finite double, or the infinite one where the exponent is out of range. -/
def ofParts (negative : Bool) (significand : Nat) (exponent : Int) : Double :=
  if greatestExponent < exponent then .infinite negative
  else .finite negative significand exponent

/-- The zero of a sign. -/
def zero (negative : Bool) : Double := .finite negative 0 leastExponent

/-- The exponent of the leading binary digit of a positive quotient. -/
def leadingExponent (numerator denominator : Nat) : Int :=
  let rough : Int := (numerator.log2 : Int) - denominator.log2
  if numerator * Nat.pow 2 (-rough).toNat < denominator * Nat.pow 2 rough.toNat then rough - 1 else rough

/-- The double nearest to a quotient, a half going to the even significand. -/
def ofRatio (negative : Bool) (numerator denominator : Nat) : Double :=
  if numerator = 0 then zero negative
  else
    let exponent := max (leadingExponent numerator denominator - 52) leastExponent
    let significand :=
      roundHalfEven (numerator * Nat.pow 2 (-exponent).toNat) (denominator * Nat.pow 2 exponent.toNat)
    if significand = Nat.pow 2 53 then ofParts negative (Nat.pow 2 52) (exponent + 1)
    else ofParts negative significand exponent

/-- How many decimal digits a number has; zero has one. -/
def digitCount (n : Nat) : Nat := (Nat.toDigits 10 n).length

/-- The double nearest to `digits * 10 ^ power`. Values too large or too small for any finite
double but zero are settled by their size alone, so that no huge power is ever computed. -/
def ofDecimal (negative : Bool) (digits : Nat) (power : Int) : Double :=
  if digits = 0 then zero negative
  else
    let size : Int := digitCount digits + power
    if 310 < size then .infinite negative
    else if size < -330 then zero negative
    else ofRatio negative (digits * Nat.pow 10 power.toNat) (Nat.pow 10 (-power).toNat)

/-- The same magnitude with the other sign. -/
def negate : Double → Double
  | .finite negative significand exponent => .finite (!negative) significand exponent
  | .infinite negative => .infinite (!negative)
  | .undefined => .undefined

@[simp] theorem negate_negate (x : Double) : x.negate.negate = x := by
  cases x <;> simp [negate]

/-- Whether a double is zero, of either sign. -/
def isZero : Double → Bool
  | .finite _ 0 _ => true
  | _ => false

/-- A sign put on a magnitude. -/
def signed (negative : Bool) (n : Nat) : Int := if negative then -(n : Int) else n

/-- The whole part of a finite double, its fraction cut off. -/
def truncate? : Double → Option Int
  | .finite negative significand exponent =>
      some (signed negative (significand * Nat.pow 2 exponent.toNat / Nat.pow 2 (-exponent).toNat))
  | _ => none

/-- Whether a double has no fractional part. -/
def isWhole : Double → Bool
  | .finite _ significand exponent => significand % Nat.pow 2 (-exponent).toNat == 0
  | _ => false

end Double

end Cartography
