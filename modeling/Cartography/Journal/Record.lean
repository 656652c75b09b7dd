import Cartography.Failure
import Cartography.Journal.Template

/-!
# Records

What is written about one event, and what callers say of it.
-/

namespace Cartography

/-- A failure that is being reported: its kind and its text. -/
structure Incident where
  kind : String
  message : String
  deriving DecidableEq

namespace Incident

/-- The incident of a failure. -/
def ofFailure (f : Failure) : Incident := ⟨f.kind, f.message⟩

/-- The text of an incident of some arguments: nothing for none, the plain form of a single one,
and the literal form of several. Where a name is not found it is quoted. -/
def textOf? (kind : String) : List Value → Option String
  | [] => some ""
  | [only] => if kind = "KeyError" then only.literal? else only.plain?
  | several => Value.argumentsLiteral? several

/-- An incident of a kind with arguments, unless these have no text. -/
def ofArguments? (kind : String) (arguments : List Value) : Option Incident :=
  (textOf? kind arguments).map fun message => ⟨kind, message⟩

end Incident

/-- Whether a failure is mentioned: none is, one that is not at hand, an incident, or one that has no
text. -/
inductive Mention
  | nothing
  | unknown
  | incident (i : Incident)
  | unshown
  deriving DecidableEq

/-- One line of a journal. -/
structure Record where
  level : String
  logger : String
  message : String
  dimensions : Fields
  mention : Mention

/-- What is to be written about an event. -/
structure Entry where
  level : Int
  message : Value
  arguments : List Value := []
  dimensions : Fields := []
  mention : Mention := .nothing

namespace Entry

/-- An entry with a message only. -/
def plain (level : Level) (message : String) : Entry :=
  { level := level.number, message := .text message }

/-- A text cut to a limit, with dots behind it. A negative limit counts from the end. -/
def cut (limit : Int) (s : String) : String :=
  if (s.length : Int) ≤ limit then s
  else
    let kept := if limit < 0 then s.length - limit.natAbs else limit.natAbs
    String.ofList (s.toList.take kept) ++ "..."

/-- The message as it is written: texts are cut, other values are not, and arguments are filled
in last. There is none if the arguments do not fit or a value has no text. -/
def text? (entry : Entry) (limit : Int) : Option String :=
  let base := match entry.message with
    | .text s => some (cut limit s)
    | other => other.literal?
  match base, entry.arguments with
  | none, _ => none
  | some s, [] => some s
  | some template, arguments => Template.fill template arguments

/-- The most characters of the arguments that an entry on a failure shows. -/
def argumentsLength : Nat := 500

/-- The text of arguments as far as it is shown. -/
def shortened (s : String) : Value := .text (String.ofList (s.toList.take argumentsLength))

/-- The entry on a failure inside a function, unless an argument has no text. -/
def failed? (function : String) (module : Value) (arguments : List Value) (named : Fields)
    (incident : Incident) : Option Entry :=
  match Value.argumentsLiteral? arguments, (Value.mapping named).literal? with
  | some arguments, some named =>
      some {
        level := Level.error.number
        message := .text ("Exception in " ++ function)
        dimensions := [("function_name", .text function), ("function_module", module),
          ("exception_type", .text incident.kind), ("exception_message", .text incident.message),
          ("function_args", shortened arguments), ("function_kwargs", shortened named)]
        mention := .incident incident }
  | _, _ => none

end Entry

end Cartography
