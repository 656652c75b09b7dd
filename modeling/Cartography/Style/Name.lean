/-!
# Property names

The host names every property in kebab case. Names may also be written in camel case, and the
names of setters in snake case.
-/

namespace Cartography.PropertyName

/-- Whether a character is a capital letter of ASCII. -/
def isCapital (c : Char) : Bool := 'A' ≤ c && c ≤ 'Z'

/-- What stands for a character in kebab case. -/
def kebabChar (c : Char) : List Char := if isCapital c then ['-', c.toLower] else [c]

/-- A name in kebab case: each capital letter becomes a hyphen and its small letter. -/
def kebab (name : String) : String := String.ofList (name.toList.flatMap kebabChar)

/-- A name in snake case brought to kebab case. -/
def ofSnake (name : String) : String :=
  String.ofList (name.toList.map fun c => if c = '_' then '-' else c)

end Cartography.PropertyName
