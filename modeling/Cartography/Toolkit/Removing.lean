import Cartography.Script
import Cartography.Toolkit.Identifiers

/-!
# Removing layers and sources

While a batch is removed, the toolkit listens for errors of the host, so that ids the map does
not have do no harm.
-/

namespace Cartography.Toolkit

/-- A script during which errors of the host go to the toolkit's own listener, which is taken
away again however the script ends. -/
def suppressing {α : Type} (pattern : String) (script : Script α) : Script α := do
  let _ ← Script.request (.on Event.error (.suppress pattern))
  let last : Script Unit := do
    let _ ← Script.request (.off Event.error (.suppress pattern))
  Script.ensuring last script

/-- One request for each id of an argument. -/
def removeEach (ids : Value) (removal : Value → Request) : Script Unit := do
  let ids ← Script.ofExcept (Identifiers.ofValue ids)
  Script.forEach ids fun id => do
    let _ ← Script.request (removal (.text id))

/-- Layers are removed. -/
def removeLayers (settings : Settings) (layers : Value) : Script Unit :=
  suppressing settings.missingLayerPattern (removeEach layers .removeLayer)

/-- Sources are removed. -/
def removeSources (settings : Settings) (sources : Value) : Script Unit :=
  suppressing settings.missingSourcePattern (removeEach sources .removeSource)

end Cartography.Toolkit
