import Cartography.Validation.Report
import Cartography.Number.IntegerText

/-!
# Checking fields

Checks of single fields. A check gives the field's value or the issues it raises, so that the
issues of all fields can be put together in their order.
-/

namespace Cartography

/-- A value, or the issues that stand in its way. -/
abbrev Checked (α : Type) := Except (List Issue) α

namespace Checked

/-- The issues of a check. -/
def issues {α : Type} : Checked α → List Issue
  | .ok _ => []
  | .error found => found

/-- One issue at a field. -/
def fault {α : Type} (key : String) (defect : Defect) : Checked α :=
  .error [⟨[.key key], defect⟩]

/-- A text. -/
def text (key : String) : Value → Checked String
  | .text s => .ok s
  | _ => fault key .notText

/-- The texts of a list from the index `start` on, with an issue for every other item. -/
def textsFrom (key : String) (start : Nat) : List Value → Checked (List String)
  | [] => .ok []
  | .text s :: rest => (textsFrom key (start + 1) rest).map (s :: ·)
  | _ :: rest =>
      .error (⟨[.key key, .index start], .notText⟩ :: (textsFrom key (start + 1) rest).issues)

/-- A list of texts; `otherwise` is the defect of what is no list. -/
def texts (key : String) (otherwise : Defect) : Value → Checked (List String)
  | .list items => textsFrom key 0 items
  | _ => fault key otherwise

/-- One of a closed list of texts. -/
def oneOf (key : String) (choices : List String) : Value → Checked String
  | .text s => if s ∈ choices then .ok s else fault key (.notOneOf choices)
  | _ => fault key (.notOneOf choices)

/-- The integer a value stands for: an integer, a truth value, a double without a fraction and
inside the range of a machine word, or the text of an integer. -/
def integerOf : Value → Except Defect Int
  | .integer i => .ok i
  | .bool b => .ok (if b then 1 else 0)
  | .double x =>
      match x.truncate? with
      | none => .error .notFinite
      | some i =>
          if !x.isWhole then .error .fractional
          else if i.natAbs < Nat.pow 2 63 then .ok i
          else .error .oversizedInteger
  | .text s =>
      match IntegerText.plain s with
      | .ok i => .ok i
      | .error .malformed => .error .unreadableInteger
      | .error (.oversized _) => .error .oversizedInteger
  | _ => .error .notInteger

/-- A positive integer. -/
def positive (key : String) (value : Value) : Checked Int :=
  match integerOf value with
  | .error defect => fault key defect
  | .ok i => if 0 < i then .ok i else fault key .notPositive

/-- A field that may be absent or null. -/
def optional {α : Type} (check : Value → Checked α) : Option Value → Checked (Option α)
  | none | some .null => .ok none
  | some value => (check value).map some

/-- A field that has a default where it is absent. -/
def defaulting {α : Type} (default : α) (check : Value → Checked α) : Option Value → Checked α
  | none => .ok default
  | some value => check value

end Checked

end Cartography
