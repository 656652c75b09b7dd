import Cartography.Expression.Lexeme
import Cartography.Text.Blank

/-!
# The tokens of a text

Blanks part tokens and are skipped. A text is read token by token from its start until its end
or the first place where no token can be read.
-/

namespace Cartography.Tokens

/-- The tokens of the rest of a text that stands at `position`. -/
def scan (position : Nat) : List Char → Except Rejection (List Located)
  | [] => .ok []
  | c :: rest =>
      if Text.isBlank c then scan (position + 1) rest
      else do
        let lexeme ← Lexeme.read position c rest
        have := lexeme.width_pos
        let following ← scan (position + lexeme.width) ((c :: rest).drop lexeme.width)
        return ⟨lexeme.token, position⟩ :: following
  termination_by cs => cs.length
  decreasing_by
    · simp
    · simp
      omega

/-- The tokens of a text. -/
def ofText (source : String) : Except Rejection Tokens := do
  let cs := source.toList
  let items ← scan 0 cs
  return ⟨items, cs.length⟩

end Cartography.Tokens
