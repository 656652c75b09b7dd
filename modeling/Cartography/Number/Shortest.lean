import Cartography.Number.Double

/-!
# The shortest decimal that reads back

A double stands for an interval of reals: those that round to it. Its decimal digits are the
fewest whose value lies in that interval, and of those the nearest to the double.

## Implementation notes

On the grid of multiples of `10 ^ g` only the two neighbours of the value have to be tried: if
any point of the grid lies in the interval, one of these two does.
-/

namespace Cartography

/-- A decimal number `digits * 10 ^ power`. -/
structure Decimal where
  digits : Nat
  power : Int
  deriving DecidableEq, Inhabited

namespace Shortest

/-- The interval of a positive double in units of a quarter of its last binary place. -/
structure Interval where
  low : Nat
  middle : Nat
  high : Nat
  closed : Bool

/-- Half a place lies on each side, a quarter below a power of two; the ends belong to the
interval when the significand is even. -/
def Interval.of (significand : Nat) (exponent : Int) : Interval where
  low := if significand = Nat.pow 2 52 ∧ Double.leastExponent < exponent
    then 4 * significand - 1 else 4 * significand - 2
  middle := 4 * significand
  high := 4 * significand + 2
  closed := significand % 2 == 0

/-- Whether a point lies in the interval; `grid` and `unit` bring both to one scale. -/
def Interval.holds (i : Interval) (grid unit point : Nat) : Bool :=
  if i.closed then i.low * unit ≤ point * grid && point * grid ≤ i.high * unit
  else i.low * unit < point * grid && point * grid < i.high * unit

/-- The neighbour of the value on the grid of multiples of `10 ^ power` that reads back, the
nearer one where both do, and the even one of two equally near. -/
def onGrid (significand : Nat) (exponent power : Int) : Option Decimal :=
  let interval := Interval.of significand exponent
  let scale := exponent - 2
  let grid := Nat.pow 10 power.toNat * Nat.pow 2 (-scale).toNat
  let unit := Nat.pow 10 (-power).toNat * Nat.pow 2 scale.toNat
  let value := interval.middle * unit
  let below := value / grid
  let above := below + 1
  match interval.holds grid unit below, interval.holds grid unit above with
  | true, true =>
      let under := value - below * grid
      let excess := above * grid - value
      if under < excess ∨ (under = excess ∧ below % 2 = 0) then some ⟨below, power⟩
      else some ⟨above, power⟩
  | true, false => some ⟨below, power⟩
  | false, true => some ⟨above, power⟩
  | false, false => none

/-- The place of the decimal point: the value lies from `10 ^ (place - 1)` up to `10 ^ place`. -/
def place (significand : Nat) (exponent : Int) : Int :=
  let numerator := significand * Nat.pow 2 exponent.toNat
  let denominator := Nat.pow 2 (-exponent).toNat
  if denominator ≤ numerator then Double.digitCount (numerator / denominator)
  else 1 - (Double.digitCount ((denominator - 1) / numerator) : Int)

/-- The fewest digits, seventeen at most, that read back. -/
def digits (significand : Nat) (exponent : Int) : Decimal :=
  let top := place significand exponent
  ((List.range 17).findSome? fun (count : Nat) => onGrid significand exponent (top - 1 - count)).getD
    ⟨significand, exponent⟩

end Shortest

end Cartography
