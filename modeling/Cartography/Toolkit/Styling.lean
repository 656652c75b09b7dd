import Cartography.Script
import Cartography.Style.Layer
import Cartography.Toolkit.Identifiers

/-!
# Styling layers

Setting properties and filters on layers that the map has. A batch sends one request for each
layer and property, layer by layer.
-/

namespace Cartography.Toolkit

/-- The properties that a property argument gives: a mapping gives several, anything else that
can be a key gives one. -/
def propertiesOf (property value : Value) : Except Failure (List (Value × Value)) :=
  match property with
  | .mapping entries => .ok (entries.map fun entry => (.text entry.1, entry.2))
  | other => if other.isKey then .ok [(other, value)] else .error .badArguments

/-- What is noted of a property that is neither a paint nor a layout property. -/
def unknownProperty (layer name canonical : String) : Entry :=
  { level := Level.warning.number
    message := .text
      ("'" ++ name ++ "' is not a known paint or layout property; sending to layout")
    dimensions := [("layer_id", .text layer), ("property", .text canonical)] }

/-- One property is sent to the half of a layer it belongs to, or to layout if to neither. -/
def sendProperty (layer : String) (name value : Value) : Script Unit :=
  match name with
  | .text name => do
      let found := classify name
      match found.category with
      | .paint =>
          let _ ← Script.request (.setPaintProperty (.text layer) (.text found.canonical) value)
      | .layout =>
          let _ ← Script.request (.setLayoutProperty (.text layer) (.text found.canonical) value)
      | .none =>
          Script.log Stage.logger (unknownProperty layer name found.canonical)
          let _ ← Script.request (.setLayoutProperty (.text layer) (.text found.canonical) value)
  | _ => .fail .badArguments

/-- Properties are set on layers. -/
def setProperty (layers property value : Value) : Script Unit := do
  let properties ← Script.ofExcept (propertiesOf property value)
  let ids ← Script.ofExcept (Identifiers.ofValue layers)
  Script.forEach ids fun id =>
    Script.forEach properties fun entry => sendProperty id entry.1 entry.2

/-- Layers are shown or hidden. -/
def setVisible (layers : Value) (visible : Bool) : Script Unit :=
  setProperty layers (.text "visibility") (.text (if visible then "visible" else "none"))

/-- One filter is set on layers. -/
def setFilter (layers filter : Value) : Script Unit := do
  let ids ← Script.ofExcept (Identifiers.ofValue layers)
  Script.forEach ids fun id => do
    let _ ← Script.request (.setFilter (.text id) filter)

end Cartography.Toolkit
