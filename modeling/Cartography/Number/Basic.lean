import Cartography.Number.Written

/-!
# Numbers

A number is an integer of any size or a double. Integers are read and written as decimal text
only up to a fixed count of digits.
-/

namespace Cartography

/-- The most digits of an integer that is read from or written as decimal text. -/
def digitLimit : Nat := 4300

/-- The decimal text of an integer, if it has no more digits than may be written. -/
def integerText? (i : Int) : Option String :=
  if Double.digitCount i.natAbs ≤ digitLimit then some (toString i) else none

/-- An integer or a double. -/
inductive Number
  | integer (i : Int)
  | double (x : Double)
  deriving DecidableEq, Inhabited

namespace Number

/-- The number of the other sign; the integer zero has none. -/
def negate : Number → Number
  | .integer i => .integer (-i)
  | .double x => .double x.negate

@[simp] theorem negate_negate (n : Number) : n.negate.negate = n := by
  cases n <;> simp [negate]

/-- The text of a number. -/
def text : Number → String
  | .integer i => toString i
  | .double x => x.text

end Number

end Cartography
