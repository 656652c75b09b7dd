import Cartography.Value.Basic

/-!
# Validation reports

What a record of fields is found at fault for: a list of issues, each with the place it arose at
and its cause.
-/

namespace Cartography

/-- A step of the way to a value: a key or an index. -/
inductive Place
  | key (name : String)
  | index (i : Nat)
  deriving DecidableEq

/-- What is wrong with a value. -/
inductive Defect
  | notText
  | notList
  | notTuple
  | notOneOf (choices : List String)
  | notInteger
  | unreadableInteger
  | oversizedInteger
  | fractional
  | notFinite
  | notPositive
  | empty
  | unfit (reason : String)
  deriving DecidableEq

namespace Defect

/-- The choices of a closed list, quoted. -/
def choicesText (choices : List String) : String :=
  " or ".intercalate (choices.map fun choice => "'" ++ choice ++ "'")

/-- The code of a defect. -/
def code : Defect → String
  | notText => "string_type"
  | notList => "list_type"
  | notTuple => "tuple_type"
  | notOneOf _ => "literal_error"
  | notInteger => "int_type"
  | unreadableInteger => "int_parsing"
  | oversizedInteger => "int_parsing_size"
  | fractional => "int_from_float"
  | notFinite => "finite_number"
  | notPositive => "greater_than"
  | empty => "string_too_short"
  | unfit _ => "value_error"

/-- The wording of a defect. -/
def message : Defect → String
  | notText => "Input should be a valid string"
  | notList => "Input should be a valid list"
  | notTuple => "Input should be a valid tuple"
  | notOneOf choices => "Input should be " ++ choicesText choices
  | notInteger => "Input should be a valid integer"
  | unreadableInteger => "Input should be a valid integer, unable to parse string as an integer"
  | oversizedInteger =>
      "Unable to parse input string as an integer, exceeded maximum size"
  | fractional => "Input should be a valid integer, got a number with a fractional part"
  | notFinite => "Input should be a finite number"
  | notPositive => "Input should be greater than 0"
  | empty => "String should have at least 1 character"
  | unfit reason => "Value error, " ++ reason

end Defect

/-- A defect and where it was found. -/
structure Issue where
  place : List Place
  defect : Defect
  deriving DecidableEq

/-- The issues of one record. -/
structure Report where
  subject : String
  issues : List Issue
  deriving DecidableEq

/-- The first line of a report: how many issues there are, and with what. -/
def Report.headline (r : Report) : String :=
  let count := r.issues.length
  toString count ++ " validation error" ++ (if count = 1 then "" else "s") ++ " for " ++ r.subject

end Cartography
