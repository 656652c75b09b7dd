import Cartography.Proofs.Outcome
import Cartography.Toolkit.Session

/-!
# Settings of one's own

What builds something with settings that are given comes to what these settings alone come to, and
leaves the shared ones as they are. A toolkit hands its own settings to all that builds something
for it, so that its operations do the same amid whatever settings are shared.

## Implementation notes

Every computation with settings that are given is shown equal to a result for which no settings are
read. Where the shared settings are concerned there is nothing left to prove of such a computation.
-/

namespace Cartography

namespace Ambient

variable {own : Settings}

/-! ### Building with settings that are given -/

theorem infer_some (source : Value) :
    infer (some own) source = ofExcept (SourceReference.infer own source) := rfl

theorem vector_some (spec : Value) (options : Fields) :
    vector (some own) spec options = ofExcept (Source.vector own spec options) := by
  cases checked : Source.checkedOptions options with
  | error failure =>
      rw [vector, checked, Source.vector, checked]
      rfl
  | ok _ =>
      rw [vector, checked]
      rfl

theorem raster_some (spec : Value) (kind : Option Value) (options : Fields) :
    raster (some own) spec kind options = ofExcept (Source.raster own spec kind options) := by
  cases checked : Source.checkedOptions options with
  | error failure =>
      rw [raster, checked, Source.raster, checked]
      rfl
  | ok free =>
      cases chosen : Source.rasterKind kind free with
      | error failure =>
          rw [raster, checked, ok_bind, chosen, Source.raster, checked]
          show _ = ofExcept (Except.bind (Source.rasterKind kind free) _)
          rw [chosen]
          rfl
      | ok _ =>
          rw [raster, checked, ok_bind, chosen]
          rfl

theorem sourceField_some (source : Value) :
    sourceField (some own) source = ofExcept (Layer.sourceField own source) := by
  cases source <;> rfl

theorem layer_some (id source kind properties : Value) :
    layer (some own) id source kind properties =
      ofExcept (Layer.build own id source kind properties) := by
  rcases whole : Layer.split source kind properties with ⟨source', kind', properties'⟩
  rw [layer, Layer.build, whole]
  dsimp only
  rw [sourceField_some]
  cases Layer.sourceField own source' with
  | error failure => rfl
  | ok value => cases Style.build properties' <;> rfl

theorem layerOfArguments_some (arguments : List Value) :
    layerOfArguments (some own) arguments = ofExcept (Layer.ofArguments own arguments) := by
  match arguments with
  | [] => rfl
  | [id] => rw [layerOfArguments, Layer.ofArguments, layer_some]
  | [id, source] => rw [layerOfArguments, Layer.ofArguments, layer_some]
  | [id, source, kind] => rw [layerOfArguments, Layer.ofArguments, layer_some]
  | [id, source, kind, properties] => rw [layerOfArguments, Layer.ofArguments, layer_some]
  | _ :: _ :: _ :: _ :: _ :: _ => rfl

end Ambient

namespace Toolkit

variable {σ : Type} (own : Settings)

/-- What is done with fields that describe a source goes along with a map of results. -/
theorem map_describedSource {β γ : Type} (f : β → γ) (known : Except Failure Fields → β)
    (vector : Value → β) (raster : String → Value → β) (spec : Fields) :
    f (describedSource known vector raster spec) =
      describedSource (fun result => f (known result)) (fun fields => f (vector fields))
        (fun kind fields => f (raster kind fields)) spec := by
  unfold describedSource
  dsimp only
  split
  · repeat' split
    all_goals rfl
  · split <;> rfl
  · split <;> rfl

theorem looseSourceAmid_eq (spec : Value) :
    looseSourceAmid own spec = Ambient.ofExcept (looseSource own spec) := by
  cases spec with
  | text raw =>
      rw [looseSourceAmid, looseSource, Ambient.infer_some, SourceReference.infer]
      cases SourceReference.ofText own raw with
      | inline spec => rfl
      | named name =>
          show Ambient.vector (some own) (.text raw) [] = _
          rw [Ambient.vector_some]
  | mapping spec =>
      simp only [looseSourceAmid, looseSource, mappedSource, map_describedSource Ambient.ofExcept,
        Ambient.vector_some, Ambient.raster_some]
  | _ => rfl

/-- The level that settings name is found when a toolkit's logger is created. -/
theorem create_logger (journal : Journal) :
    journal.create .service "MapUtils"
      { component := .service, level := .named own.logLevel.name } =
        (.ok (), journal.opened own) := by
  have level : (LevelChoice.named own.logLevel.name).resolve = .ok own.logLevel := by
    rw [LevelChoice.resolve, Level.ofName?_name]
  rw [Journal.create, level]
  rfl

/-- A toolkit is opened with the settings that are chosen, and its logger is at their level. Nothing
but the choice can fail. -/
theorem runIn_openOn (given : Option Settings) (stage : Stage σ) (shared : SharedSettings) :
    (openOn given stage).runIn shared =
      match shared.choose given with
      | (.ok own, shared) => (.ok (own, { stage with journal := stage.journal.opened own }), shared)
      | (.error m, shared) => (.error (.misconfigured m), shared) := by
  rw [openOn, Ambient.runIn_bind, Ambient.runIn_settings]
  rcases shared.choose given with ⟨m | own, after⟩
  · rfl
  · dsimp only [Except.mapError]
    rw [create_logger]
    rfl

end Toolkit

namespace Command

variable {σ : Type} (own : Settings) (host : Host σ)

/-- Amid shared settings a command does what it does under the settings of its toolkit. -/
theorem runAmid_eq (command : Command) (stage : Stage σ) (shared : SharedSettings) :
    command.runAmid own host stage shared = ((command.script own).run host stage, shared) := by
  cases command with
  | layerStyle arguments =>
      rw [runAmid, prepare, Ambient.layerOfArguments_some, script]
      cases Layer.ofArguments own arguments <;> rfl
  | addLayer id source kind properties =>
      rw [runAmid, prepare, Ambient.layer_some, script, Toolkit.addLayer]
      cases Layer.build own id source kind properties <;> rfl
  | addSource id spec =>
      rw [runAmid, prepare, Toolkit.looseSourceAmid_eq, script, Toolkit.addBuilt]
      cases Toolkit.looseSource own spec <;> rfl
  | addVector id spec options =>
      rw [runAmid, prepare, Ambient.vector_some, script, Toolkit.addBuilt]
      cases Source.vector own spec options <;> rfl
  | addRaster id spec kind options =>
      rw [runAmid, prepare, Ambient.raster_some, script, Toolkit.addBuilt]
      cases Source.raster own spec kind options <;> rfl
  | _ => rfl

end Command

end Cartography
