import Cartography.Value.Basic

/-!
# Expressions

An expression in the form the map host takes: a number, a text, or a list of a head and its
arguments. A property lookup is a call of `get`.
-/

namespace Cartography

/-- A style expression. -/
inductive Expression
  | number (n : Number)
  | text (s : String)
  | call (head : String) (arguments : List Expression)
  deriving Inhabited

namespace Expression

/-- The lookup of a property of the feature being drawn. -/
def lookup (name : String) : Expression := .call "get" [.text name]

/-- A prefix operator applied to an operand. A minus sign in front of a number is part of the
number. -/
def negation : Expression → Expression
  | .number n => .number n.negate
  | operand => .call "-" [operand]

mutual

/-- The value the host is given. -/
def toValue : Expression → Value
  | .number n => .ofNumber n
  | .text s => .text s
  | .call head arguments => .list (.text head :: toValues arguments)

/-- The values of a list of expressions. -/
def toValues : List Expression → List Value
  | [] => []
  | argument :: rest => toValue argument :: toValues rest

end

end Expression

end Cartography
