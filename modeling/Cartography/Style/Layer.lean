import Cartography.Source.Inference
import Cartography.Style.Assembly

/-!
# Layers

A layer is built from an id, a source, a type and a flat map of properties. The source and the
type may also stand among the properties.
-/

namespace Cartography.Layer

/-- The source, type and properties of a call: where only a mapping is given for all three, they
are taken from it. -/
def split (source kind properties : Value) : Value × Value × Value :=
  match source, kind, properties with
  | .mapping fields, .null, .null =>
      ((Fields.get? fields "source").getD .null, (Fields.get? fields "type").getD .null,
        .mapping ((Fields.erase fields "source").erase "type"))
  | _, _, _ => (source, kind, properties)

/-- Fields with one more, unless its value is null. -/
def withField (fields : Fields) (key : String) : Value → Fields
  | .null => fields
  | value => fields.set key value

/-- The source field of a layer: null stays null. -/
def sourceField (settings : Settings) : Value → Except Failure Value
  | .null => .ok .null
  | source => (SourceReference.infer settings source).map SourceReference.toValue

/-- The fields of a layer. Its style comes last and is laid over the rest. -/
def build (settings : Settings) (id source kind properties : Value) : Except Failure Fields := do
  let (source, kind, properties) := split source kind properties
  let source ← sourceField settings source
  let head := withField (withField [("id", id)] "type" kind) "source" source
  return head.merge (← Style.build properties)

/-- The fields of the layer that a call makes: an id and up to three more arguments. -/
def ofArguments (settings : Settings) : List Value → Except Failure Fields
  | [id] => build settings id .null .null .null
  | [id, source] => build settings id source .null .null
  | [id, source, kind] => build settings id source kind .null
  | [id, source, kind, properties] => build settings id source kind properties
  | _ => .error .badArguments

end Cartography.Layer
