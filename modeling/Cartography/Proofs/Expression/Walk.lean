import Cartography.Expression.Rejection

/-!
# Walks

A walk is a procedure that goes along a text, or along its tokens, and always knows where it is.
It comes to a value or breaks off, and stays where it is then. Besides turning down what it finds
there are three ways of breaking off that should never be taken: to look beyond the end, to step
over the end, and to nest calls more deeply than it is allowed to.

## Implementation notes

The calls that a walk may nest are limited by a number, on which the walks recurse. That a walk
ends is thus no matter of its definition, but of finding a limit that it does not run into.
-/

namespace Cartography

/-- Why a walk breaks off. -/
inductive Halt
  | turnedDown (r : Rejection)
  | uncalled (callee : String)
  | beyondEnd
  | overEnd
  | tooDeep

/-- Whether a walk breaks off because of what it finds. -/
def Halt.IsRejection : Halt → Prop
  | turnedDown _ | uncalled _ => True
  | beyondEnd | overEnd | tooDeep => False

/-- A procedure that comes to a value or breaks off, at a place in either case. -/
def Walk (σ α : Type) : Type := σ → Except Halt α × σ

namespace Walk

variable {σ α β : Type}

instance : Monad (Walk σ) where
  pure a place := (.ok a, place)
  bind walk next place :=
    match walk place with
    | (.ok a, reached) => next a reached
    | (.error h, reached) => (.error h, reached)

/-- The walk that breaks off where it is. -/
def halt (h : Halt) : Walk σ α := fun place => (.error h, place)

/-- The place where the walk is. -/
def here : Walk σ σ := fun place => (.ok place, place)

variable {walk : Walk σ α} {next : α → Walk σ β} {place reached : σ}

@[simp] theorem bind_here {next : σ → Walk σ β} : (here >>= next) place = next place place := rfl

/-- A walk goes on from where the one before it has come to. -/
theorem bind_ok {a : α} (first : walk place = (.ok a, reached)) :
    (walk >>= next) place = next a reached := by
  show (match walk place with | (.ok a, d) => next a d | (.error h, d) => (.error h, d)) = _
  rw [first]

theorem bind_error {h : Halt} (first : walk place = (.error h, reached)) :
    (walk >>= next) place = (.error h, reached) := by
  show (match walk place with | (.ok a, d) => next a d | (.error h, d) => (.error h, d)) = _
  rw [first]

end Walk

end Cartography
