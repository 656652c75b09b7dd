import Cartography.Expression.Reading
import Cartography.Script

/-!
# Compiling expressions

Compiling reads an expression from an argument and keeps a journal of it: a success is noted for
debugging, a failure as an error, once, and the failure itself is passed on.
-/

namespace Cartography.Expression

/-- The logger of the compiler. -/
def logger : String := Logger.pathOf .compiler "JamSession"

/-- The expression an argument writes; only texts do. -/
def ofValue : Value → Except Failure Expression
  | .text source => (ofText source).mapError (Failure.ofRejection source)
  | other => .error (.breach (.expressionNotText other.kind))

/-- What is noted of a success. -/
def compiledEntry (literal : String) : Entry := .plain .debug ("Compiled expression " ++ literal)

/-- What is noted of a failure, unless the argument has no text. -/
def entryOfFailure? (source : Value) (failure : Failure) : Option Entry :=
  Entry.failed? "compile" (.text "jam_session") [source] [] (.ofFailure failure)

/-- An expression is compiled. -/
def compile (source : Value) : Script Expression :=
  match ofValue source with
  | .ok tree => .note logger (compiledEntry (source.literal?.getD "")) (.finish (.ok tree))
  | .error failure =>
      match entryOfFailure? source failure with
      | some entry => .note logger entry (.finish (.error failure))
      | none => .fail (.oversizedInteger none)

end Cartography.Expression
