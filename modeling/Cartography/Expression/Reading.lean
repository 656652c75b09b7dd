import Cartography.Expression.Tokens

/-!
# Reading expressions

Tokens are read by precedence: an operand, then operators of at least the level asked for, each
with a right-hand side read at the level its binding gives.

## Implementation notes

Every reader returns the tokens it left, as fewer than it was given. This is what its callers go
on with, and what makes the recursion end.
-/

namespace Cartography.Expression

/-- Fewer tokens than `ts`. -/
abbrev Fewer (ts : List Located) := { rest : List Located // rest.length < ts.length }

/-- Turned down at the first of some tokens, or at the end of the text. -/
def refuse {α : Type} (stop : Nat) (fault : Option Token → Fault) :
    List Located → Except Rejection α
  | [] => .error (.faulty (fault none) stop)
  | found :: _ => .error (.faulty (fault (some found.token)) found.position)

/-- What is wrong where an operand should be. -/
def noOperand : Option Token → Fault
  | some found => .unexpectedToken found
  | none => .unexpectedEnd

mutual

/-- An expression whose outermost operators are at least of a level. -/
def readFrom (stop least : Nat) (ts : List Located) :
    Except Rejection (Expression × Fewer ts) := do
  let (left, ⟨rest, _⟩) ← readOperand stop ts
  let (tree, ⟨after, _⟩) ← extend stop least left rest
  return (tree, ⟨after, by omega⟩)
  termination_by (ts.length, 2)

/-- An expression made of a left-hand side and the operators that follow it. -/
def extend (stop least : Nat) (left : Expression) (ts : List Located) :
    Except Rejection (Expression × { rest : List Located // rest.length ≤ ts.length }) :=
  match ts with
  | ⟨.operator o, position⟩ :: others =>
      match o.binding? with
      | some binding =>
          if binding.level < least then .ok (left, ⟨⟨.operator o, position⟩ :: others, Nat.le_refl _⟩)
          else do
            let (right, ⟨rest, _⟩) ← readFrom stop binding.rightLevel others
            let (tree, ⟨after, _⟩) ← extend stop least (.call binding.head [left, right]) rest
            return (tree, ⟨after, by simp only [List.length_cons]; omega⟩)
      | none => .ok (left, ⟨⟨.operator o, position⟩ :: others, Nat.le_refl _⟩)
  | others => .ok (left, ⟨others, Nat.le_refl _⟩)
  termination_by (ts.length, 0)
  decreasing_by all_goals simp_wf; omega

/-- An operand, with the prefix operators in front of it. -/
def readOperand (stop : Nat) (ts : List Located) :
    Except Rejection (Expression × Fewer ts) :=
  match ts with
  | ⟨.operator o, position⟩ :: others =>
      match o.front? with
      | some build => do
          let (operand, ⟨rest, _⟩) ← readFrom stop Operator.operandLevel others
          return (build operand, ⟨rest, by simp only [List.length_cons]; omega⟩)
      | none => refuse stop noOperand (⟨.operator o, position⟩ :: others)
  | ⟨.number n, _⟩ :: others => .ok (.number n, ⟨others, by simp⟩)
  | ⟨.text s, _⟩ :: others => .ok (.text s, ⟨others, by simp⟩)
  | ⟨.name callee, _⟩ :: ⟨.opening, _⟩ :: ⟨.closing, _⟩ :: others =>
      .ok (.call callee [], ⟨others, by simp only [List.length_cons]; omega⟩)
  | ⟨.name callee, _⟩ :: ⟨.opening, _⟩ :: others => do
      let (arguments, ⟨rest, _⟩) ← readArguments stop callee others
      return (.call callee arguments, ⟨rest, by simp only [List.length_cons]; omega⟩)
  | ⟨.name name, _⟩ :: others => .ok (lookup name, ⟨others, by simp⟩)
  | ⟨.opening, _⟩ :: others => do
      let (inner, ⟨rest, shorter⟩) ← readFrom stop 0 others
      match h : rest with
      | ⟨.closing, _⟩ :: after =>
          return (inner, ⟨after, by simp only [h, List.length_cons] at shorter ⊢; omega⟩)
      | found => refuse stop .unclosedGroup found
  | found => refuse stop noOperand found
  termination_by (ts.length, 1)
  decreasing_by all_goals simp_wf; omega

/-- The arguments of a call, one at least, and the bracket that closes it. -/
def readArguments (stop : Nat) (callee : String) (ts : List Located) :
    Except Rejection (List Expression × Fewer ts) := do
  let (first, ⟨rest, shorter⟩) ← readFrom stop 0 ts
  match h : rest with
  | ⟨.comma, _⟩ :: others =>
      have : others.length < ts.length := by simp only [h, List.length_cons] at shorter; omega
      let (more, ⟨after, _⟩) ← readArguments stop callee others
      return (first :: more, ⟨after, by omega⟩)
  | ⟨.closing, _⟩ :: after =>
      return ([first], ⟨after, by simp only [h, List.length_cons] at shorter; omega⟩)
  | found => refuse stop (.unclosedCall callee) found
  termination_by (ts.length, 3)
  decreasing_by all_goals omega

end

/-- What is wrong where a text should end. -/
def trailing : Token → Fault
  | .closing => .unmatchedClosing
  | found => .unexpectedToken found

/-- The expression that tokens write. -/
def ofTokens (tokens : Tokens) : Except Rejection Expression :=
  match tokens.items with
  | [] => .error (.faulty .emptyExpression tokens.stop)
  | items => do
      let (tree, ⟨rest, _⟩) ← readFrom tokens.stop 0 items
      match rest with
      | [] => return tree
      | found :: _ => throw (.faulty (trailing found.token) found.position)

/-- The expression that a text writes. -/
def ofText (source : String) : Except Rejection Expression := do
  ofTokens (← Tokens.ofText source)

end Cartography.Expression
