import Cartography.Expression.Basic

/-!
# Operators

The fifteen operators, the levels at which the binary ones bind, and what each of them puts at
the head of an expression.
-/

namespace Cartography

/-- An operator of the expression language. -/
inductive Operator
  | lessEqual
  | greaterEqual
  | equal
  | notEqual
  | both
  | either
  | plus
  | minus
  | times
  | divide
  | modulo
  | power
  | less
  | greater
  | not
  deriving DecidableEq, Inhabited

/-- How a binary operator binds: a higher level binds tighter. -/
structure Binding where
  level : Nat
  head : String
  groupsRight : Bool
  deriving DecidableEq

namespace Operator

/-- How an operator is written. -/
def symbol : Operator → String
  | lessEqual => "<="
  | greaterEqual => ">="
  | equal => "=="
  | notEqual => "!="
  | both => "&&"
  | either => "||"
  | plus => "+"
  | minus => "-"
  | times => "*"
  | divide => "/"
  | modulo => "%"
  | power => "^"
  | less => "<"
  | greater => ">"
  | not => "!"

theorem symbol_length_pos (o : Operator) : 0 < o.symbol.length := by
  cases o <;> decide

/-- Every operator, those of two characters first. -/
def all : List Operator :=
  [lessEqual, greaterEqual, equal, notEqual, both, either, plus, minus, times, divide, modulo,
    power, less, greater, not]

theorem mem_all (o : Operator) : o ∈ all := by
  cases o <;> decide

/-- How an operator binds two operands, if it takes two. -/
def binding? : Operator → Option Binding
  | either => some ⟨1, "any", false⟩
  | both => some ⟨2, "all", false⟩
  | equal => some ⟨3, "==", false⟩
  | notEqual => some ⟨3, "!=", false⟩
  | less => some ⟨4, "<", false⟩
  | lessEqual => some ⟨4, "<=", false⟩
  | greater => some ⟨4, ">", false⟩
  | greaterEqual => some ⟨4, ">=", false⟩
  | plus => some ⟨5, "+", false⟩
  | minus => some ⟨5, "-", false⟩
  | times => some ⟨6, "*", false⟩
  | divide => some ⟨6, "/", false⟩
  | modulo => some ⟨6, "%", false⟩
  | power => some ⟨7, "^", true⟩
  | not => none

/-- The level at which the operand of a prefix operator is read: that of the power sign. -/
def operandLevel : Nat := 7

/-- What a prefix operator makes of its operand, if the operator can stand in front. -/
def front? : Operator → Option (Expression → Expression)
  | minus => some Expression.negation
  | not => some fun operand => .call "!" [operand]
  | _ => none

/-- The operators that can stand in front of an operand. -/
def fronts : List Operator := [minus, not]

end Operator

namespace Binding

/-- The least level an operator on the right-hand side may have. -/
def rightLevel (b : Binding) : Nat := if b.groupsRight then b.level else b.level + 1

end Binding

end Cartography
