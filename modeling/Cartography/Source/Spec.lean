import Cartography.Failure

/-!
# Source specifications

The three kinds of source that are checked before the host sees them. Fields that a kind does
not know are kept as they are; a field whose value is null is left out of the result.
-/

namespace Cartography

namespace SourceSpec

/-- The empty collection of features. -/
def emptyCollection : Value :=
  .mapping [("type", .text "FeatureCollection"), ("features", .list [])]

/-- The fields whose value is not null. -/
def present (fields : Fields) : Fields :=
  fields.filter fun
    | (_, .null) => false
    | _ => true

/-- The fields whose key is not among those given. -/
def others (known : List String) (fields : Fields) : Fields :=
  fields.filter fun entry => !known.contains entry.1

/-- A text field that may be missing. -/
def optionalText (fields : Fields) (key : String) : Checked (Option String) :=
  Checked.optional (Checked.text key) (fields.get? key)

/-- A field with a list of texts that may be missing. -/
def optionalTexts (fields : Fields) (key : String) : Checked (Option (List String)) :=
  Checked.optional (Checked.texts key .notList) (fields.get? key)

/-- The type field: one of the choices, the first of them where it is absent. -/
def typeField (choices : List String) (fields : Fields) : Checked String :=
  Checked.defaulting (choices.headD "") (Checked.oneOf "type" choices) (fields.get? "type")

/-- An optional value as a field's value. -/
def orNull {α : Type} (toValue : α → Value) (a : Option α) : Value :=
  match a with
  | some a => toValue a
  | none => .null

/-- Whether a source says where its tiles are: by a URL or by at least one template. -/
def hasTiles (url : Option String) (tiles : Option (List String)) : Bool :=
  url.isSome || !(tiles.getD []).isEmpty

/-- The report on a tiled source that does not say where its tiles are. -/
def noTiles (subject : String) : Report :=
  ⟨subject, [⟨[], .unfit (subject ++ " requires either 'url' or 'tiles'")⟩]⟩

end SourceSpec

/-- A source of features. -/
structure GeojsonSource where
  data : Value
  extra : Fields

namespace GeojsonSource

open SourceSpec

/-- The name of these sources in reports. -/
def subject : String := "GeoJSONSourceSpec"

/-- The source that fields describe; without data it is empty. -/
def ofFields (fields : Fields) : Except Report GeojsonSource :=
  match typeField ["geojson"] fields with
  | .ok _ => .ok ⟨(fields.get? "data").getD emptyCollection, others ["type", "data"] fields⟩
  | .error issues => .error ⟨subject, issues⟩

/-- The fields the host is given. -/
def toFields (s : GeojsonSource) : Fields :=
  present ([("type", .text "geojson"), ("data", s.data)] ++ s.extra)

end GeojsonSource

/-- A source of vector tiles. -/
structure VectorSource where
  url : Option String
  tiles : Option (List String)
  extra : Fields

namespace VectorSource

open SourceSpec

/-- The name of these sources in reports. -/
def subject : String := "VectorSourceSpec"

/-- The source that fields describe. -/
def ofFields (fields : Fields) : Except Report VectorSource :=
  let url := optionalText fields "url"
  let tiles := optionalTexts fields "tiles"
  let kind := typeField ["vector"] fields
  match url, tiles, kind with
  | .ok url, .ok tiles, .ok _ =>
      if hasTiles url tiles then .ok ⟨url, tiles, others ["url", "tiles", "type"] fields⟩
      else .error (noTiles subject)
  | _, _, _ => .error ⟨subject, url.issues ++ tiles.issues ++ kind.issues⟩

/-- The fields the host is given. -/
def toFields (s : VectorSource) : Fields :=
  present ([("url", orNull .text s.url), ("tiles", orNull .texts s.tiles),
    ("type", .text "vector")] ++ s.extra)

end VectorSource

/-- A source of raster tiles: pictures or heights. -/
structure RasterSource where
  url : Option String
  tiles : Option (List String)
  kind : String
  tileSize : Option Int
  extra : Fields

namespace RasterSource

open SourceSpec

/-- The name of these sources in reports. -/
def subject : String := "RasterSourceSpec"

/-- The kinds of raster source. -/
def kinds : List String := ["raster", "raster-dem"]

/-- The key that gives the tile size: the host's spelling wins over the other one. -/
def tileSizeKey (fields : Fields) : String :=
  if fields.has "tileSize" then "tileSize" else "tile_size"

/-- The source that fields describe. -/
def ofFields (fields : Fields) : Except Report RasterSource :=
  let url := optionalText fields "url"
  let tiles := optionalTexts fields "tiles"
  let kind := typeField kinds fields
  let sizeKey := tileSizeKey fields
  let tileSize := Checked.optional (Checked.positive sizeKey) (fields.get? sizeKey)
  match url, tiles, kind, tileSize with
  | .ok url, .ok tiles, .ok kind, .ok tileSize =>
      if hasTiles url tiles then
        .ok ⟨url, tiles, kind, tileSize, others ["url", "tiles", "type", sizeKey] fields⟩
      else .error (noTiles subject)
  | _, _, _, _ =>
      .error ⟨subject, url.issues ++ tiles.issues ++ kind.issues ++ tileSize.issues⟩

/-- The fields the host is given. -/
def toFields (s : RasterSource) : Fields :=
  present ([("url", orNull .text s.url), ("tiles", orNull .texts s.tiles), ("type", .text s.kind),
    ("tileSize", orNull .integer s.tileSize)] ++ s.extra)

end RasterSource

end Cartography
