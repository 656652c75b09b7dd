import Cartography.Expression.Compile
import Cartography.Toolkit.Adding
import Cartography.Toolkit.Removing
import Cartography.Toolkit.Styling

/-!
# Commands

The operations of a toolkit and of the handles it gives out, each with its arguments, and the
script of each of them.
-/

namespace Cartography

/-- What a command answers with: a value, or a handle on a source. -/
inductive Answer
  | value (v : Value)
  | handle (source : Value)

/-- An operation of a toolkit. -/
inductive Command
  | compile (source : Value)
  | properties (properties : Value)
  | layerStyle (arguments : List Value)
  | setProperty (layers property value : Value)
  | setVisible (layers : Value) (visible : Bool)
  | setFilter (layers filter : Value)
  | registerLayer (layer : Value)
  | addLayer (id source kind properties : Value)
  | addSource (id spec : Value)
  | addGeojson (id data : Value) (options : Fields)
  | addVector (id spec : Value) (options : Fields)
  | addRaster (id spec : Value) (kind : Option Value) (options : Fields)
  | removeLayers (layers : Value)
  | removeSources (sources : Value)
  | update (id data : Value)
  | onLoad (listener : Listener)
  | addBound (source id kind properties : Value)

namespace Command

/-- A script that answers with nothing. -/
def silent (script : Script Unit) : Script Answer := do
  script
  return .value .null

/-- A script that answers with a handle on a source. -/
def handing (source : Value) (script : Script Unit) : Script Answer := do
  script
  return .handle source

/-- Data is put in place of that of a source; null stands for the empty collection. -/
def updateScript (id data : Value) : Script Unit := do
  let data := match data with
    | .null => SourceSpec.emptyCollection
    | data => data
  let _ ← Script.request (.getSource id)
  let _ ← Script.request (.setData id data)

/-- A callback is called at once if the map has loaded, else when it has. -/
def onLoadScript (listener : Listener) : Script Unit := do
  let loaded ← Script.request .loaded
  if loaded.truthy then Script.callBack listener
  else
    let _ ← Script.request (.once Event.load listener)

/-- What a command does under some settings. -/
def script (settings : Settings) : Command → Script Answer
  | compile source => do
      let tree ← Expression.compile source
      return .value tree.toValue
  | properties props => do
      let style ← Script.ofExcept (Style.build props)
      return .value (.mapping style)
  | layerStyle arguments => do
      let layer ← Script.ofExcept (Layer.ofArguments settings arguments)
      return .value (.mapping layer)
  | setProperty layers property value => silent (Toolkit.setProperty layers property value)
  | setVisible layers visible => silent (Toolkit.setVisible layers visible)
  | setFilter layers filter => silent (Toolkit.setFilter layers filter)
  | registerLayer layer => silent (Toolkit.registerLayer layer)
  | addLayer id source kind props => silent (Toolkit.addLayer settings id source kind props)
  | addSource id spec =>
      handing id (Toolkit.addBuilt id (Toolkit.looseSource settings spec))
  | addGeojson id data options =>
      handing id (Toolkit.addBuilt id (Source.geojson (some data) options))
  | addVector id spec options =>
      handing id (Toolkit.addBuilt id (Source.vector settings spec options))
  | addRaster id spec kind options =>
      handing id (Toolkit.addBuilt id (Source.raster settings spec kind options))
  | removeLayers layers => silent (Toolkit.removeLayers settings layers)
  | removeSources sources => silent (Toolkit.removeSources settings sources)
  | update id data => silent (updateScript id data)
  | onLoad listener => silent (onLoadScript listener)
  | addBound source id kind props =>
      handing source (Toolkit.addBoundLayer source id kind props)

end Command

end Cartography
