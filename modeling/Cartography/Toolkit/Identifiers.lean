import Cartography.Failure

/-!
# Identifiers

Operations on layers and sources take one id or a list of ids.
-/

namespace Cartography.Identifiers

/-- The texts of a list that holds nothing else. -/
def allTexts? : List Value → Option (List String)
  | [] => some []
  | .text s :: rest => (allTexts? rest).map (s :: ·)
  | _ :: _ => none

/-- The failure of an argument that is neither an id nor a list of ids. -/
def refusal (ids : Value) : Failure :=
  match ids.literal? with
  | some literal => .breach (.notIdentifiers literal)
  | none => .oversizedInteger none

/-- The ids of an argument. -/
def ofValue : Value → Except Failure (List String)
  | .text id => .ok [id]
  | .list items =>
      match allTexts? items with
      | some ids => .ok ids
      | none => .error (refusal (.list items))
  | other => .error (refusal other)

end Cartography.Identifiers
