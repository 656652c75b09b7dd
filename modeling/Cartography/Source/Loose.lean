import Cartography.Source.Inference

/-!
# Sources from loose arguments

A tiled source is given by a URL, a template of tile addresses or a mapping of fields, a source
of features by its data; options are laid over what these say.
-/

namespace Cartography.Source

/-- The fields that a tiled source's argument gives. The type is not taken from a mapping. -/
def tiledFields (settings : Settings) : Value → Except Failure Fields
  | .text s =>
      if settings.isTileTemplate s then .ok [("tiles", .texts [s])] else .ok [("url", .text s)]
  | .mapping fields => .ok (Fields.erase fields "type")
  | other => .error (.breach (.sourceNotFields other.kind))

/-- Names that are taken by other arguments and cannot be options. -/
def reserved : List String := ["spec", "config"]

/-- Options less the names that are taken. -/
def checkedOptions (options : Fields) : Except Failure Fields :=
  if reserved.any options.has then .error .badArguments else .ok options

/-- A result of checking a source, its report turned into a breach. -/
def orBreach {α : Type} (sourceKind : String) : Except Report α → Except Failure α
  | .ok a => .ok a
  | .error report => .error (.breach (.invalidSource sourceKind report))

/-- A vector source. -/
def vector (settings : Settings) (spec : Value) (options : Fields) : Except Failure Fields := do
  let options ← checkedOptions options
  let fields ← tiledFields settings spec
  let source ← orBreach "vector" (VectorSource.ofFields (fields.merge options))
  return source.toFields

/-- The kind of a raster source: given as such or among the options, but not both. -/
def rasterKind (kind : Option Value) (options : Fields) : Except Failure (Value × Fields) :=
  match kind, options.get? "source_type" with
  | some _, some _ => .error .badArguments
  | some kind, none => .ok (kind, options)
  | none, some kind => .ok (kind, options.erase "source_type")
  | none, none => .ok (.text "raster", options)

/-- A raster source. Where no tile size is given it has that of the settings. -/
def raster (settings : Settings) (spec : Value) (kind : Option Value) (options : Fields) :
    Except Failure Fields := do
  let (kind, options) ← rasterKind kind (← checkedOptions options)
  let fields ← tiledFields settings spec
  let fields := (fields.merge options).setDefault "tileSize" (.integer settings.rasterTileSize)
  match RasterSource.ofFields (fields.set "type" kind) with
  | .ok source => return source.toFields
  | .error report =>
      match kind.plain? with
      | some name => throw (.breach (.invalidSource name report))
      | none => throw (.oversizedInteger none)

/-- A source of features. Data that is null or absent is left to the options, and the source is
empty where these have none. -/
def geojson (data : Option Value) (options : Fields) : Except Failure Fields := do
  let (data, options) ← match data, options.get? "data" with
    | some _, some _ => throw .badArguments
    | some data, none => pure (data, options)
    | none, some data => pure (data, options.erase "data")
    | none, none => pure (Value.null, options)
  let fields := match data with
    | .null => options
    | data => options.set "data" data
  let source ← orBreach "geojson" (GeojsonSource.ofFields fields)
  return source.toFields

end Cartography.Source
