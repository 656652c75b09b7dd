import Cartography.Value.Basic
import Cartography.Text.Quoted

/-!
# The text of values

A value is shown in two ways. Its literal form quotes texts; its plain form is the literal form
except that a text stands for itself. An integer with too many digits has no text, and neither
has a value that holds one.
-/

namespace Cartography.Value

mutual

/-- The literal form of a value. -/
def literal? : Value → Option String
  | .null => some "None"
  | .bool b => some (if b then "True" else "False")
  | .integer i => integerText? i
  | .double x => some x.text
  | .text s => some (Text.quoted s)
  | .list items => (literals? items).map fun parts => "[" ++ ", ".intercalate parts ++ "]"
  | .mapping entries =>
      (entryLiterals? entries).map fun parts => "\x7b" ++ ", ".intercalate parts ++ "\x7d"

/-- The literal forms of a list of values. -/
def literals? : List Value → Option (List String)
  | [] => some []
  | item :: rest =>
      match literal? item, literals? rest with
      | some first, some others => some (first :: others)
      | _, _ => none

/-- The literal forms of the entries of a mapping. -/
def entryLiterals? : List (String × Value) → Option (List String)
  | [] => some []
  | (key, value) :: rest =>
      match literal? value, entryLiterals? rest with
      | some first, some others => some ((Text.quoted key ++ ": " ++ first) :: others)
      | _, _ => none

end

/-- The plain form of a value. -/
def plain? : Value → Option String
  | .text s => some s
  | value => value.literal?

/-- The literal form of a sequence of arguments: in round brackets, a single one with a comma
behind it. -/
def argumentsLiteral? (arguments : List Value) : Option String :=
  (literals? arguments).map fun
    | [only] => "(" ++ only ++ ",)"
    | parts => "(" ++ ", ".intercalate parts ++ ")"

/-- Whether a value can be written out: no integer in it has too many digits. -/
def isWritable (value : Value) : Bool := value.literal?.isSome

end Cartography.Value
