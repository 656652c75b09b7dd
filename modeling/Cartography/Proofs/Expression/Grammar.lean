import Cartography.Proofs.Expression.PlainReading

/-!
# The grammar of expressions

A stratified grammar of the token language: six levels of operators that group to the left, a
level of prefix operators and of the power sign, which groups to the right, and primaries. A
derivation is data, so that two derivations of the same tokens can be told apart.

## Implementation notes

Level 8 is that of the primaries. The steps from one level to the next are constructors of a
derivation like any other, and a derivation of the tokens of a text starts at level 1.
-/

namespace Cartography

/-- The operators of a level that groups to the left, each with the head of its expressions. -/
def leftOperators : Nat → List (Operator × String)
  | 1 => [(.either, "any")]
  | 2 => [(.both, "all")]
  | 3 => [(.equal, "=="), (.notEqual, "!=")]
  | 4 => [(.less, "<"), (.lessEqual, "<="), (.greater, ">"), (.greaterEqual, ">=")]
  | 5 => [(.plus, "+"), (.minus, "-")]
  | 6 => [(.times, "*"), (.divide, "/"), (.modulo, "%")]
  | _ => []

/-- A derivation of a phrase of a level. -/
inductive Derivation : Nat → Type
  | climb {level : Nat} (below : level < 8) (inner : Derivation (level + 1)) : Derivation level
  | binary {level : Nat} {o : Operator} {head : String} (listed : (o, head) ∈ leftOperators level)
      (left : Derivation level) (right : Derivation (level + 1)) : Derivation level
  | negated (operand : Derivation 7) : Derivation 7
  | denied (operand : Derivation 7) : Derivation 7
  | power (base : Derivation 8) (exponent : Derivation 7) : Derivation 7
  | number (n : Number) : Derivation 8
  | text (s : String) : Derivation 8
  | lookup (name : String) : Derivation 8
  | call (name : String) (arguments : List (Derivation 1)) : Derivation 8
  | group (inner : Derivation 1) : Derivation 8

/-- The level an operator's left-hand side must have: its own, or that of the primaries where it
groups to the right. -/
def Binding.leftLevel (b : Binding) : Nat := if b.groupsRight then b.level + 1 else b.level

/-- A listed operator binds at its level and groups to the left. -/
theorem binding_of_listed {level : Nat} {o : Operator} {head : String}
    (listed : (o, head) ∈ leftOperators level) : o.binding? = some ⟨level, head, false⟩ := by
  have all : ∀ entry ∈ leftOperators level, entry.1.binding? = some ⟨level, entry.2, false⟩ := by
    unfold leftOperators
    split <;> simp [Operator.binding?]
  exact all _ listed

/-- A binary operator is listed at its level, unless it is the power sign. -/
theorem listed_or_power {o : Operator} {b : Binding} (binds : o.binding? = some b) :
    (b.groupsRight = false ∧ 1 ≤ b.level ∧ b.level ≤ 6 ∧ (o, b.head) ∈ leftOperators b.level) ∨
      (o = .power ∧ b = ⟨7, "^", true⟩) := by
  cases o <;> simp only [Operator.binding?, Option.some.injEq, reduceCtorEq] at binds <;>
    subst binds <;> simp [leftOperators]

/-- The right-hand side of an operator is at most one level above the operator. -/
theorem Binding.rightLevel_le (b : Binding) : b.rightLevel ≤ b.level + 1 := by
  unfold Binding.rightLevel
  split <;> omega

/-- The right-hand side of a binary operator is never asked to be a primary. -/
theorem Binding.rightLevel_le_of_binds (b : Binding) {o : Operator} (binds : o.binding? = some b) :
    b.rightLevel ≤ 7 := by
  rcases listed_or_power binds with ⟨groups, -, le, -⟩ | ⟨-, rfl⟩
  · simp only [Binding.rightLevel, groups]
    exact Nat.succ_le_succ le
  · decide

namespace Derivation

mutual

/-- The tokens a derivation derives. -/
def yield {level : Nat} : Derivation level → List Token
  | climb _ inner => inner.yield
  | @binary _ o _ _ left right => left.yield ++ .operator o :: right.yield
  | negated operand => .operator .minus :: operand.yield
  | denied operand => .operator .not :: operand.yield
  | power base exponent => base.yield ++ .operator .power :: exponent.yield
  | number n => [.number n]
  | text s => [.text s]
  | lookup name => [.name name]
  | call name arguments => .name name :: .opening :: (yields arguments ++ [.closing])
  | group inner => .opening :: (inner.yield ++ [.closing])

/-- The tokens of arguments, with a comma between any two. -/
def yields : List (Derivation 1) → List Token
  | [] => []
  | [only] => only.yield
  | first :: second :: more => first.yield ++ .comma :: yields (second :: more)

end

mutual

/-- The expression a derivation stands for. -/
def tree {level : Nat} : Derivation level → Expression
  | climb _ inner => inner.tree
  | @binary _ _ head _ left right => .call head [left.tree, right.tree]
  | negated operand =>
      match operand.tree with
      | .number n => .number n.negate
      | other => .call "-" [other]
  | denied operand => .call "!" [operand.tree]
  | power base exponent => .call "^" [base.tree, exponent.tree]
  | number n => .number n
  | text s => .text s
  | lookup name => .call "get" [.text name]
  | call name arguments => .call name (trees arguments)
  | group inner => inner.tree

/-- The expressions of arguments. -/
def trees : List (Derivation 1) → List Expression
  | [] => []
  | first :: more => first.tree :: trees more

end

theorem tree_negated (operand : Derivation 7) :
    (negated operand).tree = operand.tree.negation := by
  rw [tree]
  cases operand.tree <;> rfl

/-- Whether the last token is a bare name, which a bracket behind it would turn into a callee. -/
def endsInName {level : Nat} : Derivation level → Bool
  | climb _ inner => inner.endsInName
  | binary _ _ right => right.endsInName
  | negated operand => operand.endsInName
  | denied operand => operand.endsInName
  | power _ exponent => exponent.endsInName
  | lookup _ => true
  | _ => false

end Derivation

end Cartography
