import Cartography.Expression.Reading
import Cartography.Proofs.Expression.Walk

/-!
# Walking along tokens

The readers of expressions as walks of a cursor, which looks at the token under it and advances
token by token.
-/

namespace Cartography

/-- A place among tokens, and how many of them have been passed so far. -/
structure Cursor where
  index : Nat
  advances : Nat

namespace Cursor

/-- The place behind the next token. -/
def next (c : Cursor) : Cursor := ⟨c.index + 1, c.advances + 1⟩

/-- The tokens from a place on. -/
def ahead (c : Cursor) (tokens : Tokens) : List Located := tokens.items.drop c.index

/-- A way that a cursor takes among some tokens: forward, no further than to their end, and with
one advance for each token. -/
structure Goes (tokens : Tokens) (c d : Cursor) : Prop where
  forward : c.index ≤ d.index
  within : d.index ≤ tokens.items.length
  counted : d.advances + c.index = c.advances + d.index

end Cursor

/-- The way in which a token binds two operands, if it does. -/
def Token.binding? : Token → Option Binding
  | operator o => o.binding?
  | _ => none

/-- What a token makes of the operand behind it, if it can stand in front of one. -/
def Token.front? : Token → Option (Expression → Expression)
  | operator o => o.front?
  | _ => none

namespace Walk

variable (tokens : Tokens)

/-- The token under the cursor, if that is not at the end. -/
def current : Walk Cursor (Option Located) := fun c =>
  if c.index ≤ tokens.items.length then (.ok tokens.items[c.index]?, c) else (.error .beyondEnd, c)

/-- What can be told from the token under the cursor. -/
def peek {α : Type} (tell : Token → Option α) : Walk Cursor (Option α) := do
  return (← current tokens).bind fun t => tell t.token

/-- Whether a token stands under the cursor. -/
def sees (token : Token) : Walk Cursor Bool := do
  return (← current tokens).any fun t => t.token = token

/-- The token under the cursor is passed. -/
def advance : Walk Cursor Unit := fun c =>
  if c.index < tokens.items.length then (.ok (), c.next) else (.error .overEnd, c)

/-- The token under the cursor is turned down. -/
def turnDown {α : Type} (fault : Option Token → Fault) : Walk Cursor α := do
  match ← current tokens with
  | some t => halt (.turnedDown (.faulty (fault (some t.token)) t.position))
  | none => halt (.turnedDown (.faulty (fault none) tokens.stop))

/-- A token is passed that has to stand under the cursor. -/
def expect (token : Token) (fault : Option Token → Fault) : Walk Cursor Unit := do
  if ← sees tokens token then advance tokens else turnDown tokens fault

mutual

/-- An expression whose outermost operators are at least of a level. -/
def binary : Nat → Nat → Walk Cursor Expression
  | 0, _ => halt .tooDeep
  | depth + 1, least => do
      let left ← unary depth
      extended depth least left

/-- A left-hand side with the operators behind it. -/
def extended : Nat → Nat → Expression → Walk Cursor Expression
  | 0, _, _ => halt .tooDeep
  | depth + 1, least, left => do
      match ← peek tokens Token.binding? with
      | none => return left
      | some b =>
          if b.level < least then return left
          else do
            advance tokens
            let right ← binary depth b.rightLevel
            extended depth least (.call b.head [left, right])

/-- An operand with the prefix operators in front of it. -/
def unary : Nat → Walk Cursor Expression
  | 0 => halt .tooDeep
  | depth + 1 => do
      match ← peek tokens Token.front? with
      | some build => do
          advance tokens
          let operand ← binary depth Operator.operandLevel
          return build operand
      | none => primary depth

/-- An operand without prefix operators. -/
def primary : Nat → Walk Cursor Expression
  | 0 => halt .tooDeep
  | depth + 1 => do
      match ← peek tokens some with
      | some (.number n) => do
          advance tokens
          return .number n
      | some (.text s) => do
          advance tokens
          return .text s
      | some (.name s) => do
          advance tokens
          if ← sees tokens .opening then call depth s else return .lookup s
      | some .opening => do
          advance tokens
          let inner ← binary depth 0
          expect tokens .closing .unclosedGroup
          return inner
      | _ => turnDown tokens Expression.noOperand

/-- A call from its opening bracket on. -/
def call : Nat → String → Walk Cursor Expression
  | 0, _ => halt .tooDeep
  | depth + 1, callee => do
      if ← sees tokens .opening then do
        advance tokens
        if ← sees tokens .closing then do
          advance tokens
          return .call callee []
        else do
          let arguments ← arguments depth callee
          return .call callee arguments
      else halt (.uncalled callee)

/-- The arguments of a call and its closing bracket. -/
def arguments : Nat → String → Walk Cursor (List Expression)
  | 0, _ => halt .tooDeep
  | depth + 1, callee => do
      let first ← binary depth 0
      if ← sees tokens .comma then do
        advance tokens
        let more ← arguments depth callee
        return first :: more
      else do
        expect tokens .closing (.unclosedCall callee)
        return [first]

end

/-- An expression with nothing in front of it and nothing behind. -/
def parse (depth : Nat) : Walk Cursor Expression := do
  match ← current tokens with
  | none => turnDown tokens fun _ => .emptyExpression
  | some _ => do
      let tree ← binary tokens depth 0
      match ← current tokens with
      | none => return tree
      | some found => halt (.turnedDown (.faulty (Expression.trailing found.token) found.position))

end Walk

/-! ### Ways -/

variable {tokens : Tokens} {c d e : Cursor}

namespace Cursor

theorem Goes.refl (within : c.index ≤ tokens.items.length) : c.Goes tokens c :=
  ⟨Nat.le_refl _, within, rfl⟩

theorem Goes.trans (first : c.Goes tokens d) (further : d.Goes tokens e) : c.Goes tokens e where
  forward := Nat.le_trans first.forward further.forward
  within := further.within
  counted := by
    have firstCount := first.counted
    have furtherCount := further.counted
    omega

/-- On a way from the start no more tokens are passed than there are. -/
theorem Goes.advances_le (way : (⟨0, 0⟩ : Cursor).Goes tokens d) :
    d.advances ≤ tokens.items.length := by
  have counted := way.counted
  have within := way.within
  simp only at counted
  omega

variable {t : Located} {rest : List Located}

theorem index_lt (found : c.ahead tokens = t :: rest) : c.index < tokens.items.length := by
  have filled : (c.ahead tokens).length = rest.length + 1 := by rw [found]; rfl
  rw [ahead, List.length_drop] at filled
  omega

theorem head?_ahead (c : Cursor) (tokens : Tokens) :
    (c.ahead tokens).head? = tokens.items[c.index]? := by
  rw [ahead, List.head?_drop]

theorem ahead_next (found : c.ahead tokens = t :: rest) : c.next.ahead tokens = rest := by
  rw [ahead] at found
  rw [ahead, next, ← List.drop_drop, found]
  rfl

theorem goes_next (found : c.ahead tokens = t :: rest) : c.Goes tokens c.next where
  forward := Nat.le_succ _
  within := index_lt found
  counted := by
    simp only [next]
    omega

end Cursor

namespace Walk

open Cursor Expression

/-! ### Looking and passing -/

theorem current_eq (within : c.index ≤ tokens.items.length) :
    current tokens c = (.ok (c.ahead tokens).head?, c) := by
  rw [current, if_pos within, head?_ahead]

theorem peek_eq {α : Type} (tell : Token → Option α) (within : c.index ≤ tokens.items.length) :
    peek tokens tell c = (.ok ((c.ahead tokens).head?.bind fun t => tell t.token), c) := by
  rw [peek, bind_ok (current_eq within)]
  rfl

theorem sees_eq (token : Token) (within : c.index ≤ tokens.items.length) :
    sees tokens token c = (.ok ((c.ahead tokens).head?.any fun t => t.token = token), c) := by
  rw [sees, bind_ok (current_eq within)]
  rfl

variable {t : Located} {rest : List Located} {token : Token} {fault : Option Token → Fault}

theorem advance_eq (found : c.ahead tokens = t :: rest) : advance tokens c = (.ok (), c.next) := by
  rw [advance, if_pos (index_lt found)]

theorem sees_of_found {position : Nat} (found : c.ahead tokens = ⟨token, position⟩ :: rest) :
    sees tokens token c = (.ok true, c) := by
  rw [sees_eq token (Nat.le_of_lt (index_lt found)), found]
  simp

theorem sees_of_other (within : c.index ≤ tokens.items.length)
    (other : ∀ t ∈ (c.ahead tokens).head?, t.token ≠ token) :
    sees tokens token c = (.ok false, c) := by
  rw [sees_eq token within]
  cases first : (c.ahead tokens).head? with
  | none => rfl
  | some t => simp [other t first]

theorem expect_of_found {position : Nat} (found : c.ahead tokens = ⟨token, position⟩ :: rest) :
    expect tokens token fault c = (.ok (), c.next) := by
  rw [expect, bind_ok (sees_of_found found)]
  exact advance_eq found

theorem expect_of_other (within : c.index ≤ tokens.items.length)
    (other : ∀ t ∈ (c.ahead tokens).head?, t.token ≠ token) :
    expect tokens token fault c = turnDown tokens fault c := by
  rw [expect, bind_ok (sees_of_other within other)]
  rfl

end Walk

end Cartography
