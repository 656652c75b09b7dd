import Cartography.Proofs.Expression.Alike

/-!
# Places of tokens

What tokens write does not depend on the places where they stand. Where the tokens of a text and its
end are moved, the same expression is read, or the tokens are turned down for the same reason at the
place that was moved there.

## Implementation notes

A move is any function on places. Tokens and the same tokens moved are read alike, and what two
such readings have in common is the place of a failure, up to the move.
-/

namespace Cartography

variable (move : Nat → Nat)

/-- A token at the place that it is moved to. -/
def Located.moved (t : Located) : Located := ⟨t.token, move t.position⟩

/-- The tokens of a text, and its end, at the places that they are moved to. -/
def Tokens.moved (tokens : Tokens) : Tokens :=
  ⟨tokens.items.map (·.moved move), move tokens.stop⟩

/-- A text that is turned down at the place that is moved to. -/
def Rejection.moved : Rejection → Rejection
  | .faulty fault place => .faulty fault (move place)
  | .oversizedInteger digits => .oversizedInteger digits

namespace Expression

/-- What a reader comes to, with the tokens that it leaves moved, or its place of failure. -/
def relocated {α : Type} :
    Except Rejection (α × List Located) → Except Rejection (α × List Located)
  | .ok (a, rest) => .ok (a, rest.map (·.moved move))
  | .error r => .error (r.moved move)

/-- Tokens are read alike wherever they stand, and a failure on them moves along. -/
theorem readAlike_moved (stop : Nat) :
    ReadAlike (fun ts us => us = ts.map (·.moved move)) (fun r r' => r' = r.moved move) stop
      (move stop) where
  starts := by
    rintro ts _ rfl
    cases ts with
    | nil => exact .ended
    | cons t rest => exact .same t.token t.position (move t.position) rfl
  refused := by
    rintro ts _ rfl α fault
    cases ts <;> exact .turnedDown rfl

/-- From fewer than `count` tokens expressions are read alike wherever they stand. -/
def MovesBelow (move : Nat → Nat) (stop count : Nat) : Prop :=
  ∀ ts : List Located, ts.length < count → ∀ least,
    plainFrom (move stop) least (ts.map (·.moved move)) = relocated move (plainFrom stop least ts)

theorem movesBelow (move : Nat → Nat) (stop count : Nat) : MovesBelow move stop count := by
  intro ts few least
  have outcome := alikeBelow (readAlike_moved move stop) count ts _ rfl few least
  generalize plainFrom stop least ts = x, plainFrom (move stop) least _ = y at outcome
  cases outcome with
  | read a behind => rw [behind, relocated]
  | turnedDown common => rw [common, relocated]

/-- The tokens of a text are read alike wherever they stand. -/
theorem ofTokens_moved (move : Nat → Nat) (tokens : Tokens) :
    ofTokens (tokens.moved move) = (ofTokens tokens).mapError (Rejection.moved move) := by
  obtain ⟨ts, stop⟩ := tokens
  by_cases filled : ts = []
  · subst filled
    rfl
  · have still : ts.map (·.moved move) ≠ [] := by simpa using filled
    rw [Tokens.moved, ofTokens_eq (move stop) still, ofTokens_eq stop filled,
      movesBelow move stop (ts.length + 1) ts (Nat.lt_succ_self _)]
    cases plainFrom stop 1 ts with
    | error r => rfl
    | ok p =>
        obtain ⟨tree, rest⟩ := p
        cases rest <;> rfl

end Expression

end Cartography
