import Cartography.Settings.Basic

/-!
# Settings from the environment

Six variables give the settings. Lists are written with commas between their entries; blanks
around an entry and blank entries are dropped.
-/

namespace Cartography

/-- The variables that are set, each with its text. -/
abbrev Environment := List (String × String)

namespace Environment

/-- The text of a variable. -/
def get? (env : Environment) (name : String) : Option String := env.lookup name

/-- The environment without a variable. -/
def unset (env : Environment) (name : String) : Environment := env.filter (·.1 != name)

/-- The environment with a variable set. -/
def set (env : Environment) (name text : String) : Environment := (name, text) :: env.unset name

end Environment

namespace Settings

/-- The pieces of a text between commas. -/
def splitCommas : List Char → List (List Char)
  | [] => [[]]
  | c :: rest =>
      match c, splitCommas rest with
      | ',', pieces => [] :: pieces
      | c, piece :: others => (c :: piece) :: others
      | c, [] => [[c]]

/-- The entries of a list that is written with commas. -/
def entries (s : String) : List String :=
  ((splitCommas s.toList).map (Text.trim Text.isBlank)).filter (!·.isEmpty)
    |>.map String.ofList

/-- A list of entries written with commas. -/
def joined (items : List String) : String := ",".intercalate items

/-- Why the environment gives no settings. -/
inductive Misconfiguration
  | unreadableTileSize (text : String)
  | oversizedTileSize (digits : Nat)
  | invalid (report : Report)
  deriving DecidableEq

/-- The most characters of a quoted text that a complaint about it shows. -/
def shownLength : Nat := 200

/-- The text for an integer of too many digits. -/
def oversizedText (digits : Nat) : String :=
  "Exceeds the limit (" ++ toString digitLimit ++
    " digits) for integer string conversion: value has " ++ toString digits ++
    " digits; use sys.set_int_max_str_digits() to increase the limit"

namespace Misconfiguration

/-- The cause of a misconfiguration in words; of a report, its first line. -/
def cause : Misconfiguration → String
  | unreadableTileSize text =>
      "invalid literal for int() with base 10: " ++
        String.ofList ((Text.quoted text).toList.take shownLength)
  | oversizedTileSize digits => oversizedText digits
  | invalid report => report.headline

/-- The whole message. -/
def message (m : Misconfiguration) : String := "Invalid map utils configuration: " ++ m.cause

end Misconfiguration

/-- The fields that the environment gives; what is not set has its standard text. -/
def environmentFields (env : Environment) (tileSize : Int) : Fields :=
  let listOf (name : String) (default : List String) : Value :=
    .texts (entries ((env.get? name).getD (joined default)))
  let textOf (name default : String) : Value := .text ((env.get? name).getD default)
  [("vector_url_schemes", listOf "MAP_UTILS_VECTOR_SCHEMES" standard.vectorSchemes),
    ("geojson_suffixes", listOf "MAP_UTILS_GEOJSON_SUFFIXES" standard.geojsonSuffixes),
    ("raster_tile_size", .integer tileSize),
    ("missing_layer_pattern",
      textOf "MAP_UTILS_MISSING_LAYER_PATTERN" standard.missingLayerPattern),
    ("missing_source_pattern",
      textOf "MAP_UTILS_MISSING_SOURCE_PATTERN" standard.missingSourcePattern),
    ("log_level", textOf "MAP_UTILS_LOG_LEVEL" standard.logLevel.name)]

/-- The text of the tile size that the environment gives. -/
def tileSizeText (env : Environment) : String :=
  (env.get? "MAP_UTILS_RASTER_TILE_SIZE").getD (toString standard.rasterTileSize)

/-- The settings that the environment gives. The tile size is read before anything is
checked. -/
def ofEnvironment (env : Environment) : Except Misconfiguration Settings :=
  match IntegerText.lenient (tileSizeText env) with
  | .error .malformed => .error (.unreadableTileSize (tileSizeText env))
  | .error (.oversized digits) => .error (.oversizedTileSize digits)
  | .ok tileSize =>
      match ofFields (environmentFields env tileSize) with
      | .ok settings => .ok settings
      | .error report => .error (.invalid report)

end Settings

end Cartography
