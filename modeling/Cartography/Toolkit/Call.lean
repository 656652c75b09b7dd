import Cartography.Toolkit.Command

/-!
# Calls by name

Operations can be called by name, with arguments in order and by name. Besides the names of the
operations, `set_` and the name of a property in snake case is a setter of that property.
-/

namespace Cartography

/-- The parameters of an operation: those that must be given, those that may, and whether further
arguments are taken in order or by name. -/
structure Signature where
  required : List String
  optional : List String := []
  takesMore : Bool := false
  takesOptions : Bool := false

/-- Arguments that have found their parameters. -/
structure Bound where
  given : Fields
  more : List Value
  options : Fields

namespace Signature

/-- The parameters in their order. -/
def parameters (s : Signature) : List String := s.required ++ s.optional

/-- Arguments put to parameters. The receiver itself counts as given. There is no way to do so if
a parameter is given twice or not at all, or if an argument has none. -/
def bind (s : Signature) (arguments : List Value) (named : Fields) : Option Bound :=
  let inOrder := s.parameters.zip arguments
  let more := arguments.drop s.parameters.length
  let byName := named.filter fun entry => s.parameters.contains entry.1
  let options := named.filter fun entry => !s.parameters.contains entry.1
  let given : Fields := inOrder ++ byName
  if byName.any (fun entry => (inOrder.lookup entry.1).isSome) || named.has "self" then none
  else if !more.isEmpty && !s.takesMore then none
  else if !options.isEmpty && !s.takesOptions then none
  else if s.required.all given.has then some ⟨given, more, options⟩
  else none

end Signature

namespace Bound

/-- The argument of a parameter; null where it is not given. -/
def arg (b : Bound) (name : String) : Value := (b.given.get? name).getD .null

end Bound

/-- The operations that add a layer of a fixed type, and the type. -/
def layerAdders : List (String × String) :=
  [("add_line", "line"), ("add_fill", "fill"), ("add_circle", "circle"), ("add_symbol", "symbol"),
    ("add_fill_extrusion", "fill-extrusion"), ("add_heatmap", "heatmap"), ("add_raster", "raster"),
    ("add_hillshade", "hillshade")]

/-- An operation as it is called: its parameters, and the command that arguments make. -/
structure Callable where
  signature : Signature
  command : Bound → Command

namespace Callable

/-- The operations of a toolkit by name. -/
def ofName? : String → Option Callable
  | "__call__" => some ⟨⟨["expression"], [], false, false⟩,
      fun b => .compile (b.arg "expression")⟩
  | "properties" => some ⟨⟨[], ["props"], false, false⟩,
      fun b => .properties (b.arg "props")⟩
  | "layer_style" => some ⟨⟨["layer_id"], [], true, false⟩,
      fun b => .layerStyle (b.arg "layer_id" :: b.more)⟩
  | "set_property" => some ⟨⟨["layers", "prop"], ["value"], false, false⟩,
      fun b => .setProperty (b.arg "layers") (b.arg "prop") (b.arg "value")⟩
  | "show" => some ⟨⟨["layers"], [], false, false⟩,
      fun b => .setVisible (b.arg "layers") true⟩
  | "hide" => some ⟨⟨["layers"], [], false, false⟩,
      fun b => .setVisible (b.arg "layers") false⟩
  | "toggle" => some ⟨⟨["layers", "state"], [], false, false⟩,
      fun b => .setVisible (b.arg "layers") (b.arg "state").truthy⟩
  | "set_filter" => some ⟨⟨["layers", "filter_expression"], [], false, false⟩,
      fun b => .setFilter (b.arg "layers") (b.arg "filter_expression")⟩
  | "register_layer" => some ⟨⟨["layer"], [], false, false⟩,
      fun b => .registerLayer (b.arg "layer")⟩
  | "add" => some ⟨⟨["layer_id", "source", "layer_type"], ["props"], false, false⟩,
      fun b => .addLayer (b.arg "layer_id") (b.arg "source") (b.arg "layer_type") (b.arg "props")⟩
  | "add_background" => some ⟨⟨["layer_id"], ["props"], false, false⟩,
      fun b => .addLayer (b.arg "layer_id") .null (.text "background") (b.arg "props")⟩
  | "remove_layer" => some ⟨⟨["layers"], [], false, false⟩,
      fun b => .removeLayers (b.arg "layers")⟩
  | "add_source" => some ⟨⟨["source_id", "spec"], [], false, false⟩,
      fun b => .addSource (b.arg "source_id") (b.arg "spec")⟩
  | "add_geojson" => some ⟨⟨["source_id"], ["data"], false, true⟩,
      fun b => .addGeojson (b.arg "source_id") (b.arg "data") b.options⟩
  | "add_vector" => some ⟨⟨["source_id", "spec"], [], false, true⟩,
      fun b => .addVector (b.arg "source_id") (b.arg "spec") b.options⟩
  | "add_raster_source" => some ⟨⟨["source_id", "spec"], [], false, true⟩,
      fun b => .addRaster (b.arg "source_id") (b.arg "spec") none b.options⟩
  | "add_raster_dem_source" => some ⟨⟨["source_id", "spec"], [], false, true⟩,
      fun b => .addRaster (b.arg "source_id") (b.arg "spec") (some (.text "raster-dem")) b.options⟩
  | "remove_source" => some ⟨⟨["sources"], [], false, false⟩,
      fun b => .removeSources (b.arg "sources")⟩
  | "update" | "set_data" => some ⟨⟨["source_id"], ["data"], false, false⟩,
      fun b => .update (b.arg "source_id") (b.arg "data")⟩
  | name => (layerAdders.lookup name).map fun kind =>
      ⟨⟨["layer_id", "source"], ["props"], false, false⟩,
        fun b => .addLayer (b.arg "layer_id") (b.arg "source") (.text kind) (b.arg "props")⟩

/-- The property that a setter's name gives, if it is one. -/
def setterProperty? (name : String) : Option String :=
  match name.toList with
  | 's' :: 'e' :: 't' :: '_' :: rest =>
      let found := classify (PropertyName.ofSnake (String.ofList rest))
      if found.isStyle then some found.canonical else none
  | _ => none

/-- The setter of a property. -/
def setter (canonical : String) : Callable :=
  ⟨⟨["layers", "value"], [], false, false⟩,
    fun b => .setProperty (b.arg "layers") (.text canonical) (b.arg "value")⟩

/-- What a name stands for: an operation of the toolkit or a setter. -/
def resolve (name : String) : Except Failure Callable :=
  match ofName? name with
  | some callable => .ok callable
  | none =>
      match setterProperty? name with
      | some canonical => .ok (setter canonical)
      | none => .error (.noAttribute "MapUtils" name)

/-- The operations of a handle on a source by name. -/
def onHandle? (source : Value) : String → Option Callable
  | "add" => some ⟨⟨["layer_id", "layer_type"], ["props"], false, false⟩,
      fun b => .addBound source (b.arg "layer_id") (b.arg "layer_type") (b.arg "props")⟩
  | name => (layerAdders.lookup name).map fun kind =>
      ⟨⟨["layer_id"], ["props"], false, false⟩,
        fun b => .addBound source (b.arg "layer_id") (.text kind) (b.arg "props")⟩

/-- What a name stands for on an answer: only handles have operations. -/
def resolveOn (target : Answer) (name : String) : Except Failure Callable :=
  match target with
  | .handle source =>
      match onHandle? source name with
      | some callable => .ok callable
      | none => .error (.noAttribute "LayerHandle" name)
  | .value v => .error (.noAttribute v.kind name)

/-- The command that a call with arguments makes. -/
def apply (callable : Callable) (arguments : List Value) (named : Fields) :
    Except Failure Command :=
  match callable.signature.bind arguments named with
  | some bound => .ok (callable.command bound)
  | none => .error .badArguments

end Callable

end Cartography
