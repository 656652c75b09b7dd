import Cartography.Expression.Token
import Cartography.Value.Display

/-!
# Why a text is no expression

Each cause a text can be turned down for, with its wording, and the error that callers see.
-/

namespace Cartography

/-- A text that is not an expression, with the place where it goes wrong if one is known. -/
structure SyntaxError where
  message : String
  source : String
  position : Option Int
  deriving DecidableEq

namespace SyntaxError

/-- The name under which expression texts are reported. -/
def filename : String := "<jam-session>"

/-- Expressions have one line. -/
def line : Nat := 1

/-- The message and the place. -/
def headline (e : SyntaxError) : String :=
  match e.position with
  | some p => e.message ++ " at position " ++ toString p
  | none => e.message

/-- The place counted from one. -/
def offset (e : SyntaxError) : Int := e.position.getD 0 + 1

/-- The whole text of the error. -/
def text (e : SyntaxError) : String :=
  e.headline ++ " (" ++ filename ++ ", line " ++ toString line ++ ")"

/-- The error that arguments make: a message, a text and a place, of which the last two may be
left out. -/
def ofArguments? : List Value → Option SyntaxError
  | [message] => message.plain?.map fun m => ⟨m, "", none⟩
  | [message, .text source] | [message, .text source, .null] =>
      message.plain?.map fun m => ⟨m, source, none⟩
  | [message, .text source, .integer position] =>
      message.plain?.map fun m => ⟨m, source, some position⟩
  | _ => none

end SyntaxError

/-- What is wrong at a place of an expression. -/
inductive Fault
  | unexpectedCharacter (c : Char)
  | unterminatedText
  | emptyExpression
  | unmatchedClosing
  | unexpectedToken (found : Token)
  | unexpectedEnd
  | unclosedGroup (found : Option Token)
  | unclosedCall (callee : String) (found : Option Token)
  deriving DecidableEq

/-- The wording of a fault. -/
def Fault.message : Fault → String
  | .unexpectedCharacter c => "Unexpected character " ++ Text.quoted (String.singleton c)
  | .unterminatedText => "Unterminated string literal"
  | .emptyExpression => "Empty expression"
  | .unmatchedClosing => "Unbalanced parentheses: unexpected ')'"
  | .unexpectedToken found => "Unexpected token " ++ found.describe
  | .unexpectedEnd => "Unexpected end of expression"
  | .unclosedGroup found =>
      "Unbalanced parentheses: expected ')', found " ++ Token.describeFound found
  | .unclosedCall callee found =>
      "Unbalanced parentheses: expected ',' or ')' in call to " ++ callee ++ ", found " ++
        Token.describeFound found

/-- Why a text is turned down: a fault at a place, or an integer of more digits than are read. -/
inductive Rejection
  | faulty (fault : Fault) (position : Nat)
  | oversizedInteger (digits : Nat)
  deriving DecidableEq

end Cartography
