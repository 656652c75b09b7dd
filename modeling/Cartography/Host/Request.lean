import Cartography.Value.Basic

/-!
# Requests to a host

What a map host can be asked to do, and the listeners that can be registered with it.
-/

namespace Cartography

/-- What is run when an event is fired: the toolkit's own listener, which writes errors to the
journal, or a callback of the user's, which may fail. A callback calls nothing of the toolkit or of
the host itself: runs with one that does are outside of all that is said about runs. -/
inductive Listener
  | suppress (pattern : String)
  | callback (tag : String) (raises : Option String)
  deriving DecidableEq

/-- A request to the map host. -/
inductive Request
  | addLayer (layer : Value)
  | removeLayer (id : Value)
  | addSource (id spec : Value)
  | removeSource (id : Value)
  | getSource (id : Value)
  | setData (id data : Value)
  | setPaintProperty (layer name value : Value)
  | setLayoutProperty (layer name value : Value)
  | setFilter (layer filter : Value)
  | loaded
  | once (event : String) (listener : Listener)
  | on (event : String) (listener : Listener)
  | off (event : String) (listener : Listener)

namespace Request

/-- The name of a request's kind. -/
def name : Request → String
  | addLayer _ => "add_layer"
  | removeLayer _ => "remove_layer"
  | addSource _ _ => "add_source"
  | removeSource _ => "remove_source"
  | getSource _ => "get_source"
  | setData _ _ => "set_data"
  | setPaintProperty _ _ _ => "set_paint_property"
  | setLayoutProperty _ _ _ => "set_layout_property"
  | setFilter _ _ => "set_filter"
  | loaded => "loaded"
  | once _ _ => "once"
  | on _ _ => "on"
  | off _ _ => "off"

/-- What a request is about. -/
def subjects : Request → List Value
  | addLayer layer => [layer]
  | removeLayer id => [id]
  | addSource id spec => [id, spec]
  | removeSource id => [id]
  | getSource id => [id]
  | setData id data => [id, data]
  | setPaintProperty layer name value => [layer, name, value]
  | setLayoutProperty layer name value => [layer, name, value]
  | setFilter layer filter => [layer, filter]
  | loaded => []
  | once event _ => [.text event]
  | on event _ => [.text event]
  | off event _ => [.text event]

/-- The request that a name and its subjects make, where it registers no listener. -/
def ofName? : String → List Value → Option Request
  | "add_layer", [layer] => some (addLayer layer)
  | "remove_layer", [id] => some (removeLayer id)
  | "add_source", [id, spec] => some (addSource id spec)
  | "remove_source", [id] => some (removeSource id)
  | "get_source", [id] => some (getSource id)
  | "set_paint_property", [layer, name, value] => some (setPaintProperty layer name value)
  | "set_layout_property", [layer, name, value] => some (setLayoutProperty layer name value)
  | "set_filter", [layer, filter] => some (setFilter layer filter)
  | "loaded", [] => some loaded
  | _, _ => none

/-- Whether a request changes what the map shows. -/
def isMutation : Request → Bool
  | addLayer _ | removeLayer _ | addSource _ _ | removeSource _ | setPaintProperty _ _ _
  | setLayoutProperty _ _ _ | setFilter _ _ => true
  | _ => false

end Request

end Cartography
