import Cartography.Failure
import Cartography.Style.Property

/-!
# Assembling styles

A flat map of properties is split into the paint half, the layout half and the fields of the
layer itself.
-/

namespace Cartography

/-- A style split into its parts. -/
structure Style where
  top : Fields
  paint : Fields
  layout : Fields

namespace Style

/-- The name under which a field of the layer itself is kept. -/
def topName (key : String) : String := if key = "sourceLayer" then "source-layer" else key

/-- A style with one more property. -/
def add (style : Style) (key : String) (value : Value) : Style :=
  let found := classify key
  match found.category with
  | .paint => { style with paint := style.paint.set found.canonical value }
  | .layout => { style with layout := style.layout.set found.canonical value }
  | .none => { style with top := style.top.set (topName key) value }

/-- The style of a map of properties, taken in their order. -/
def ofProperties (properties : Fields) : Style :=
  properties.foldl (fun style entry => style.add entry.1 entry.2) ⟨[], [], []⟩

/-- Fields with one half of a style put in, unless that half is empty. -/
def withHalf (fields : Fields) (name : String) (half : Fields) : Fields :=
  if half.isEmpty then fields else fields.set name (.mapping half)

/-- A style as the fields of a layer. -/
def toFields (style : Style) : Fields :=
  withHalf (withHalf style.top "paint" style.paint) "layout" style.layout

/-- The fields of the style that an argument gives: none at all for null. -/
def build : Value → Except Failure Fields
  | .null => .ok []
  | .mapping properties => .ok (ofProperties properties).toFields
  | other => .error (.breach (.propertiesNotMapping other.kind))

end Style

end Cartography
