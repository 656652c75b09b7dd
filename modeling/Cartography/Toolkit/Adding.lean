import Cartography.Script
import Cartography.Source.Loose
import Cartography.Style.Layer

/-!
# Adding layers and sources

Every addition is noted for debugging and then put to the host as a single request.
-/

namespace Cartography.Toolkit

/-- What is noted of an addition. -/
def additionEntry (message key : String) (value : Value) : Entry :=
  { level := Level.debug.number, message := .text message, dimensions := [(key, value)] }

/-- A layer that is fully shaped is handed to the host. -/
def registerLayer (layer : Value) : Script Unit :=
  match layer with
  | .mapping fields =>
      match (Fields.get? fields "id" |>.getD .null).plain? with
      | some id => do
          Script.log Stage.logger (additionEntry ("Adding layer '" ++ id ++ "'") "layer_type"
            (Fields.get? fields "type" |>.getD .null))
          let _ ← Script.request (.addLayer layer)
      | none => .fail (.oversizedInteger none)
  | other => .fail (.noAttribute other.kind "get")

/-- A layer is built and added. -/
def addLayer (settings : Settings) (id source kind properties : Value) : Script Unit := do
  let layer ← Script.ofExcept (Layer.build settings id source kind properties)
  registerLayer (.mapping layer)

/-- The layer that is added to a source by name: the name is taken as it is. -/
def boundLayer (source id kind properties : Value) : Except Failure Fields :=
  (Style.build properties).map fun style =>
    Fields.merge [("id", id), ("type", kind), ("source", source)] style

/-- A layer on a source that is registered is built and added. -/
def addBoundLayer (source id kind properties : Value) : Script Unit := do
  let layer ← Script.ofExcept (boundLayer source id kind properties)
  registerLayer (.mapping layer)

/-- A source with its fields is handed to the host. -/
def registerSource (id : Value) (spec : Fields) : Script Unit :=
  match id.plain? with
  | some name => do
      Script.log Stage.logger (additionEntry ("Adding source '" ++ name ++ "'") "source_type"
        ((spec.get? "type").getD .null))
      let _ ← Script.request (.addSource id (.mapping spec))
  | none => .fail (.oversizedInteger none)

/-- The types of the objects that features are made of. -/
def featureTypes : List String :=
  ["FeatureCollection", "Feature", "Point", "MultiPoint", "LineString", "MultiLineString",
    "Polygon", "MultiPolygon", "GeometryCollection"]

/-- The source that fields with a type of `geojson` give. Two of their names are taken. -/
def featureSource (fields : Fields) : Except Failure Fields :=
  if fields.has "source_id" || fields.has "self" then .error .badArguments
  else Source.geojson (some ((fields.get? "data").getD .null)) (fields.erase "data")

/-- What becomes of a mapping that describes a source, by its type: features by themselves, a tiled
source, a source of features, or one that is passed on as it is. `known` takes what is known without
settings, and `vector` and `raster` take the fields of tiled sources. -/
def describedSource {β : Type} (known : Except Failure Fields → β) (vector : Value → β)
    (raster : String → Value → β) (spec : Fields) : β :=
  let fields := spec.erase "type"
  match (spec.get? "type").getD .null with
  | .text kind =>
      if kind ∈ featureTypes then known (Source.geojson (some (.mapping spec)) [])
      else if kind = "vector" then vector (.mapping fields)
      else if kind ∈ RasterSource.kinds then raster kind (.mapping fields)
      else if kind = "geojson" then known (featureSource fields)
      else known (.ok spec)
  | .null =>
      if fields.has "url" || fields.has "tiles" then vector (.mapping fields)
      else known (.ok spec)
  | kind => if kind.isKey then known (.ok spec) else known (.error .badArguments)

/-- The source that a mapping describes. -/
def mappedSource (settings : Settings) (spec : Fields) : Except Failure Fields :=
  describedSource (fun known => known) (fun fields => Source.vector settings fields [])
    (fun kind fields => Source.raster settings fields (some (.text kind)) []) spec

/-- The source that a loose argument describes. A text that is no more than a name is taken for
the URL of a vector source. -/
def looseSource (settings : Settings) : Value → Except Failure Fields
  | .text raw =>
      match SourceReference.ofText settings raw with
      | .inline spec => .ok spec
      | .named _ => Source.vector settings (.text raw) []
  | .mapping spec => mappedSource settings spec
  | other => .error (.breach (.sourceNotSpec other.kind))

/-- A source is built and added. -/
def addBuilt (id : Value) (built : Except Failure Fields) : Script Unit := do
  let spec ← Script.ofExcept built
  registerSource id spec

end Cartography.Toolkit
