import Cartography.Ambient
import Cartography.Toolkit.Command

/-!
# Operations amid shared settings

What builds sources and layers takes settings or does with the shared ones. A toolkit has settings
of its own, those it was opened with, and hands them to all that builds something for it.

## Implementation notes

An operation builds what it needs before it asks the host for anything, so that an operation amid
shared settings is a computation that ends with a script.
-/

namespace Cartography

namespace Ambient

/-! ### Building amid shared settings -/

/-- What a source argument stands for. -/
def infer (given : Option Settings) (source : Value) : Ambient SourceReference := do
  let settings ← settings given
  ofExcept (SourceReference.infer settings source)

/-- A vector source. Options that are taken by other arguments are turned down before any settings
are read. -/
def vector (given : Option Settings) (spec : Value) (options : Fields) : Ambient Fields := do
  let _ ← ofExcept (Source.checkedOptions options)
  let settings ← settings given
  ofExcept (Source.vector settings spec options)

/-- A raster source. Options that are taken by other arguments are turned down before any settings
are read. -/
def raster (given : Option Settings) (spec : Value) (kind : Option Value) (options : Fields) :
    Ambient Fields := do
  let _ ← ofExcept ((Source.checkedOptions options).bind (Source.rasterKind kind))
  let settings ← settings given
  ofExcept (Source.raster settings spec kind options)

/-- The source field of a layer. Settings are only read where there is a source. -/
def sourceField (given : Option Settings) : Value → Ambient Value
  | .null => return .null
  | source => return (← infer given source).toValue

/-- The fields of a layer. -/
def layer (given : Option Settings) (id source kind properties : Value) : Ambient Fields := do
  let (source, kind, properties) := Layer.split source kind properties
  let source ← sourceField given source
  let head := Layer.withField (Layer.withField [("id", id)] "type" kind) "source" source
  return head.merge (← ofExcept (Style.build properties))

/-- The fields of the layer that a call makes: an id and up to three more arguments. -/
def layerOfArguments (given : Option Settings) : List Value → Ambient Fields
  | [id] => layer given id .null .null .null
  | [id, source] => layer given id source .null .null
  | [id, source, kind] => layer given id source kind .null
  | [id, source, kind, properties] => layer given id source kind properties
  | _ => ofExcept (.error .badArguments)

end Ambient

/-! ### Toolkits -/

namespace Toolkit

/-- The source that a loose argument describes to a toolkit with settings of its own. -/
def looseSourceAmid (own : Settings) : Value → Ambient Fields
  | .text raw => do
      match ← Ambient.infer (some own) (.text raw) with
      | .inline spec => return spec
      | .named _ => Ambient.vector (some own) (.text raw) []
  | .mapping spec =>
      describedSource Ambient.ofExcept (fun fields => Ambient.vector (some own) fields [])
        (fun kind fields => Ambient.raster (some own) fields (some (.text kind)) []) spec
  | other => Ambient.ofExcept (.error (.breach (.sourceNotSpec other.kind)))

/-- A toolkit is opened on a stage with the settings that are given, or else the shared ones. Its
logger is created at the level that the settings name. -/
def openOn {σ : Type} (given : Option Settings) (stage : Stage σ) :
    Ambient (Settings × Stage σ) := do
  let own ← Ambient.settings given
  let (answer, journal) := stage.journal.create .service "MapUtils"
    { component := .service, level := .named own.logLevel.name }
  Ambient.ofExcept (answer.map fun _ => (own, { stage with journal }))

end Toolkit

namespace Command

/-- What a command comes to on a toolkit with settings of its own. -/
def prepare (own : Settings) : Command → Ambient (Script Answer)
  | layerStyle arguments => do
      let layer ← Ambient.layerOfArguments (some own) arguments
      return .finish (.ok (.value (.mapping layer)))
  | addLayer id source kind props => do
      let layer ← Ambient.layer (some own) id source kind props
      return silent (Toolkit.registerLayer (.mapping layer))
  | addSource id spec => do
      let source ← Toolkit.looseSourceAmid own spec
      return handing id (Toolkit.registerSource id source)
  | addVector id spec options => do
      let source ← Ambient.vector (some own) spec options
      return handing id (Toolkit.registerSource id source)
  | addRaster id spec kind options => do
      let source ← Ambient.raster (some own) spec kind options
      return handing id (Toolkit.registerSource id source)
  | command => return command.script own

/-- A command is run on a stage, amid shared settings. -/
def runAmid {σ : Type} (own : Settings) (host : Host σ) (command : Command) (stage : Stage σ)
    (shared : SharedSettings) : (Except Failure Answer × Stage σ) × SharedSettings :=
  match (command.prepare own).runIn shared with
  | (.ok script, shared) => (script.run host stage, shared)
  | (.error failure, shared) => ((.error failure, stage), shared)

end Command

end Cartography
