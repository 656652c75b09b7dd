import Cartography.Expression.Rejection
import Cartography.Settings.Environment

/-!
# Failures

Everything an operation can fail with, by cause, with the kind and the message under which it is
reported.
-/

namespace Cartography

/-- A caller's argument that is not of the kind an operation takes. -/
inductive Breach
  | expressionNotText (kind : String)
  | propertiesNotMapping (kind : String)
  | sourceNotReference (kind : String)
  | sourceNotFields (kind : String)
  | sourceNotSpec (kind : String)
  | notIdentifiers (literal : String)
  | invalidSource (sourceKind : String) (report : Report)
  deriving DecidableEq

/-- The wording of a breach. -/
def Breach.message : Breach → String
  | .expressionNotText kind => "Expression source must be a string, got " ++ kind
  | .propertiesNotMapping kind => "Properties must be a mapping, got " ++ kind
  | .sourceNotReference kind => "Source must be a mapping or a string, got " ++ kind
  | .sourceNotFields kind => "Source spec must be a URL string or a mapping, got " ++ kind
  | .sourceNotSpec kind => "Source spec must be a mapping or a string, got " ++ kind
  | .notIdentifiers literal => "Expected an id or a sequence of ids, got " ++ literal
  | .invalidSource sourceKind report =>
      "Invalid " ++ sourceKind ++ " source: " ++ report.headline

/-- What an operation fails with. -/
inductive Failure
  | breach (b : Breach)
  | expression (e : SyntaxError)
  | misconfigured (m : Settings.Misconfiguration)
  | invalid (report : Report)
  | noAttribute (owner name : String)
  | refused (message : String)
  | unknownName (name : String)
  | oversizedInteger (digits : Option Nat)
  | badArguments
  deriving DecidableEq

namespace Failure

/-- The name of the kind of a failure. -/
def kind : Failure → String
  | breach _ => "ContractViolationError"
  | expression _ => "ExpressionSyntaxError"
  | misconfigured _ => "ConfigurationError"
  | invalid _ => "ValidationError"
  | noAttribute _ _ => "AttributeError"
  | refused _ => "RuntimeError"
  | unknownName _ => "KeyError"
  | oversizedInteger _ => "ValueError"
  | badArguments => "TypeError"

/-- The message of a failure; the empty text for those that are reported by kind alone. -/
def message : Failure → String
  | breach b => b.message
  | expression e => e.text
  | misconfigured m => m.message
  | invalid report => report.headline
  | noAttribute owner name =>
      Text.quoted owner ++ " object has no attribute " ++ Text.quoted name
  | refused message => message
  | unknownName name => Text.quoted name
  | oversizedInteger (some digits) => Settings.oversizedText digits
  | oversizedInteger none => ""
  | badArguments => ""

/-- The report behind a failure, if it comes from a validation. -/
def report? : Failure → Option Report
  | breach (.invalidSource _ report) => some report
  | misconfigured (.invalid report) => some report
  | invalid report => some report
  | _ => none

/-- The failure of reading an expression from a text. -/
def ofRejection (source : String) : Rejection → Failure
  | .faulty fault position => .expression ⟨fault.message, source, some position⟩
  | .oversizedInteger digits => .oversizedInteger (some digits)

end Failure

end Cartography
