import Cartography.Style.Name

/-!
# Style properties

Every property a layer can carry belongs to one half of the layer: paint, which is cheap to
change, or layout, which moves things. Names in neither table are fields of the layer itself.
-/

namespace Cartography

/-- The paint properties. -/
def paintNames : List String := [
  "fill-antialias", "fill-opacity", "fill-color", "fill-outline-color", "fill-translate",
  "fill-translate-anchor", "fill-pattern", "line-opacity", "line-color", "line-translate",
  "line-translate-anchor", "line-width", "line-gap-width", "line-offset", "line-blur",
  "line-dasharray", "line-pattern", "line-gradient", "circle-radius", "circle-color",
  "circle-blur", "circle-opacity", "circle-translate", "circle-translate-anchor",
  "circle-pitch-scale", "circle-pitch-alignment", "circle-stroke-width", "circle-stroke-color",
  "circle-stroke-opacity", "heatmap-radius", "heatmap-weight", "heatmap-intensity",
  "heatmap-color", "heatmap-opacity", "fill-extrusion-opacity", "fill-extrusion-color",
  "fill-extrusion-translate", "fill-extrusion-translate-anchor", "fill-extrusion-pattern",
  "fill-extrusion-height", "fill-extrusion-base", "fill-extrusion-vertical-gradient",
  "icon-opacity", "icon-color", "icon-halo-color", "icon-halo-width", "icon-halo-blur",
  "icon-translate", "icon-translate-anchor", "text-opacity", "text-color", "text-halo-color",
  "text-halo-width", "text-halo-blur", "text-translate", "text-translate-anchor",
  "raster-opacity", "raster-hue-rotate", "raster-brightness-min", "raster-brightness-max",
  "raster-saturation", "raster-contrast", "raster-resampling", "raster-fade-duration",
  "hillshade-illumination-direction", "hillshade-illumination-anchor", "hillshade-exaggeration",
  "hillshade-shadow-color", "hillshade-highlight-color", "hillshade-accent-color",
  "background-color", "background-pattern", "background-opacity"]

/-- The layout properties. -/
def layoutNames : List String := [
  "visibility", "fill-sort-key", "circle-sort-key", "line-cap", "line-join", "line-miter-limit",
  "line-round-limit", "line-sort-key", "symbol-placement", "symbol-spacing",
  "symbol-avoid-edges", "symbol-sort-key", "symbol-z-order", "icon-allow-overlap",
  "icon-ignore-placement", "icon-optional", "icon-rotation-alignment", "icon-size",
  "icon-text-fit", "icon-text-fit-padding", "icon-image", "icon-rotate", "icon-padding",
  "icon-keep-upright", "icon-offset", "icon-anchor", "icon-pitch-alignment",
  "text-pitch-alignment", "text-rotation-alignment", "text-field", "text-font", "text-size",
  "text-max-width", "text-line-height", "text-letter-spacing", "text-justify",
  "text-radial-offset", "text-variable-anchor", "text-anchor", "text-max-angle",
  "text-writing-mode", "text-rotate", "text-padding", "text-keep-upright", "text-transform",
  "text-offset", "text-allow-overlap", "text-ignore-placement", "text-optional"]

/-- Which half of a layer a property belongs to, if any. -/
inductive Category
  | paint
  | layout
  | none
  deriving DecidableEq

/-- The name of a category. -/
def Category.name : Category → String
  | paint => "paint"
  | layout => "layout"
  | none => "none"

/-- The category of a property and its canonical name. -/
structure Classification where
  category : Category
  canonical : String
  deriving DecidableEq

/-- Whether a property is a paint or a layout property. -/
def Classification.isStyle (c : Classification) : Bool := c.category != .none

/-- The category of a canonical name. -/
def Category.of (canonical : String) : Category :=
  if canonical ∈ paintNames then .paint
  else if canonical ∈ layoutNames then .layout
  else .none

/-- The classification of a property name in any spelling. -/
def classify (name : String) : Classification :=
  let canonical := PropertyName.kebab name
  ⟨.of canonical, canonical⟩

end Cartography
