import Cartography.Number.Basic
import Cartography.Text.Blank
import Cartography.Text.Digit

/-!
# Integers as text

Two ways of reading an integer from a whole text. Both strip white space, allow one sign and
allow single underscores between digits. The lenient one takes the digits of every script; the
plain one takes ASCII digits and a fraction of zeros.
-/

namespace Cartography.IntegerText

/-- Why a text is no integer. -/
inductive Problem
  | malformed
  | oversized (digits : Nat)
  deriving DecidableEq

/-- The digits of a run in which single underscores stand between digits. -/
def groupedDigits? (isDigit : Char → Bool) : List Char → Option (List Char)
  | [] => none
  | [d] => if isDigit d then some [d] else none
  | d :: '_' :: rest => if isDigit d then (groupedDigits? isDigit rest).map (d :: ·) else none
  | d :: rest => if isDigit d then (groupedDigits? isDigit rest).map (d :: ·) else none

/-- A text less its sign, and whether that is a minus. -/
def splitSign : List Char → Bool × List Char
  | '-' :: rest => (true, rest)
  | '+' :: rest => (false, rest)
  | rest => (false, rest)

/-- The integer of a sign and digits, of no more digits than are read. -/
def ofDigits (negative : Bool) (digits : List Char) : Except Problem Int :=
  if digits.length ≤ digitLimit then .ok (Double.signed negative (Text.numberOf digits))
  else .error (.oversized digits.length)

/-- The integer a text writes in digits of any script. Digits in excess are reported before
anything that stands behind them. -/
def lenient (s : String) : Except Problem Int :=
  let (negative, body) := splitSign (Text.trim Text.isSpace s.toList)
  let run := body.takeWhile fun c => Text.isDigit c || c == '_'
  match groupedDigits? Text.isDigit run with
  | none => .error .malformed
  | some digits =>
      match ofDigits negative digits with
      | .error problem => .error problem
      | .ok i => if run.length = body.length then .ok i else .error .malformed

/-- The integer a text writes in ASCII digits; a point may follow with zeros behind it. -/
def plain (s : String) : Except Problem Int :=
  let (negative, body) := splitSign (Text.trim Text.isSpace s.toList)
  let whole := body.takeWhile (· != '.')
  let fraction := body.drop (whole.length + 1)
  let wholeOnly := whole.length = body.length
  if wholeOnly ∨ (!fraction.isEmpty ∧ fraction.all (· == '0')) then
    match groupedDigits? Text.isAsciiDigit whole with
    | none => .error .malformed
    | some digits => ofDigits negative digits
  else .error .malformed

end Cartography.IntegerText
