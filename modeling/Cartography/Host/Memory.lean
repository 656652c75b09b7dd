import Cartography.Host.Stage

/-!
# A host in memory

A host that keeps layers and sources and can be told to go wrong on single requests.
-/

namespace Cartography

/-- How a request goes wrong: it fails, or an error is fired in place of its effect. -/
inductive Disruption
  | fails (message : String)
  | fires (payload : Value)

/-- The state of a host in memory. -/
structure MemoryHost where
  layers : List Value
  sources : Fields
  isLoaded : Value
  disruptions : List (String × Disruption)

namespace MemoryHost

/-- The text under which something is kept that is told apart by a value. -/
def keyText : Value → String
  | .null => "null"
  | .bool b => if b then "true" else "false"
  | .integer i => toString i
  | .double x => x.text
  | .text s => s
  | _ => ""

/-- The id of a layer. -/
def idOf : Value → Value
  | .mapping fields => (Fields.get? fields "id").getD .null
  | _ => .null

/-- Whether two ids are the same. -/
def sameId (a b : Value) : Bool := a.kind == b.kind && keyText a == keyText b && a.isKey

/-- The id that tells which request goes wrong. -/
def disruptionId : Request → Value
  | .addLayer layer => idOf layer
  | r => r.subjects.headD .null

/-- How a request goes wrong, if it does. -/
def disruption? (host : MemoryHost) (r : Request) : Option Disruption :=
  host.disruptions.lookup (r.name ++ ":" ++ (disruptionId r).plain?.getD "")

/-- The payload of an error with a message. -/
def errorPayload (message : String) : Value :=
  .mapping [("error", .mapping [("message", .text message)])]

/-- The error about a layer that is not there. -/
def missingLayer (id : Value) : Value :=
  errorPayload ("The layer '" ++ id.plain?.getD "" ++
    "' does not exist in the map's style and cannot be removed.")

/-- The error about a source that is not there. -/
def missingSource : Value := errorPayload "There is no source with this ID"

/-- The effect of a request. -/
def perform (host : MemoryHost) : Request → Reaction MemoryHost
  | .addLayer layer => { state := { host with layers := host.layers ++ [layer] } }
  | .removeLayer id =>
      let others := host.layers.filter fun layer => !(sameId (idOf layer) id)
      if others.length < host.layers.length then { state := { host with layers := others } }
      else { state := host, events := [(Event.error, missingLayer id)] }
  | .addSource id spec =>
      if id.isKey then
        { state := { host with sources := host.sources.set (keyText id) spec } }
      else { state := host, outcome := .error .badArguments }
  | .removeSource id =>
      if host.sources.has (keyText id) then
        { state := { host with sources := host.sources.erase (keyText id) } }
      else { state := host, events := [(Event.error, missingSource)] }
  | .loaded => { state := host, outcome := .ok host.isLoaded }
  | _ => { state := host }

/-- A request is carried out unless it goes wrong. The data of a source is set without fail. -/
def react (host : MemoryHost) (r : Request) : Reaction MemoryHost :=
  match r, host.disruption? r with
  | .setData _ _, _ => { state := host }
  | _, some (.fails message) => { state := host, outcome := .error (.refused message) }
  | _, some (.fires payload) =>
      { state := host, events := [(Event.error, payload)], takesEffect := false }
  | _, none => host.perform r

end MemoryHost

/-- The host in memory as a host. -/
def Host.memory : Host MemoryHost := ⟨MemoryHost.react⟩

end Cartography
