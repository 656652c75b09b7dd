import Cartography.Journal.Level
import Cartography.Validation.Check
import Cartography.Value.Display

/-!
# Settings

How loose source arguments are told apart, which tile size raster sources get, how the host's
errors are recognised and how much is logged.
-/

namespace Cartography

/-- The settings of a toolkit. -/
structure Settings where
  vectorSchemes : List String
  geojsonSuffixes : List String
  tilePlaceholders : List String
  rasterTileSize : Int
  missingLayerPattern : String
  missingSourcePattern : String
  logLevel : Level
  deriving DecidableEq

namespace Settings

/-- The settings where nothing is given. -/
def standard : Settings where
  vectorSchemes := ["mapbox://"]
  geojsonSuffixes := [".geojson"]
  tilePlaceholders := ["\x7bz\x7d", "\x7bx\x7d", "\x7by\x7d"]
  rasterTileSize := 512
  missingLayerPattern := "does not exist"
  missingSourcePattern := "There is no source with this ID"
  logLevel := .info

/-- The name of a settings record in reports. -/
def subject : String := "StyleUtilsConfig"

/-- A list of texts with at least one entry. -/
def matchers (key : String) (value : Value) : Checked (List String) :=
  match Checked.texts key .notTuple value with
  | .ok [] => Checked.fault key (.unfit "At least one value is required")
  | checked => checked

/-- A text with at least one character. -/
def pattern (key : String) (value : Value) : Checked String :=
  match Checked.text key value with
  | .ok "" => Checked.fault key .empty
  | checked => checked

/-- The names that are taken for a level, each with the level that is meant. -/
def levelNames : List (String × Level) :=
  [("DEBUG", .debug), ("INFO", .info), ("WARNING", .warning), ("ERROR", .error),
    ("CRITICAL", .critical)]

/-- The names that are taken for a level as a sequence. -/
def levelChoices : String :=
  "(" ++ ", ".intercalate (levelNames.map fun entry => Text.quoted entry.1) ++ ")"

/-- The level that a text names, in whatever case. The names are those of the settings' own list;
journals read the names of levels for themselves (`Level.ofName?`). -/
def level (key : String) (value : Value) : Checked Level :=
  match Checked.text key value with
  | .error issues => .error issues
  | .ok s =>
      match levelNames.lookup (Text.upper s) with
      | some level => .ok level
      | none => Checked.fault key
          (.unfit ("Invalid log level '" ++ s ++ "'. Must be one of: " ++ levelChoices))

/-- The settings that fields give: each field is checked, one that is absent has its standard
value, and other fields are ignored. -/
def ofFields (fields : Fields) : Except Report Settings :=
  let schemes := Checked.defaulting standard.vectorSchemes (matchers "vector_url_schemes")
    (fields.get? "vector_url_schemes")
  let suffixes := Checked.defaulting standard.geojsonSuffixes (matchers "geojson_suffixes")
    (fields.get? "geojson_suffixes")
  let placeholders := Checked.defaulting standard.tilePlaceholders (matchers "tile_placeholders")
    (fields.get? "tile_placeholders")
  let tileSize := Checked.defaulting standard.rasterTileSize (Checked.positive "raster_tile_size")
    (fields.get? "raster_tile_size")
  let layerPattern := Checked.defaulting standard.missingLayerPattern
    (pattern "missing_layer_pattern") (fields.get? "missing_layer_pattern")
  let sourcePattern := Checked.defaulting standard.missingSourcePattern
    (pattern "missing_source_pattern") (fields.get? "missing_source_pattern")
  let logLevel := Checked.defaulting standard.logLevel (level "log_level")
    (fields.get? "log_level")
  match schemes, suffixes, placeholders, tileSize, layerPattern, sourcePattern, logLevel with
  | .ok schemes, .ok suffixes, .ok placeholders, .ok tileSize, .ok layerPattern,
      .ok sourcePattern, .ok logLevel =>
      .ok ⟨schemes, suffixes, placeholders, tileSize, layerPattern, sourcePattern, logLevel⟩
  | _, _, _, _, _, _, _ =>
      .error ⟨subject, schemes.issues ++ suffixes.issues ++ placeholders.issues ++
        tileSize.issues ++ layerPattern.issues ++ sourcePattern.issues ++ logLevel.issues⟩

/-- The settings as fields. -/
def toFields (s : Settings) : Fields :=
  [("vector_url_schemes", .texts s.vectorSchemes),
    ("geojson_suffixes", .texts s.geojsonSuffixes),
    ("tile_placeholders", .texts s.tilePlaceholders),
    ("raster_tile_size", .integer s.rasterTileSize),
    ("missing_layer_pattern", .text s.missingLayerPattern),
    ("missing_source_pattern", .text s.missingSourcePattern),
    ("log_level", .text s.logLevel.name)]

end Settings

end Cartography
