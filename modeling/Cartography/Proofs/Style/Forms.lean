import Cartography.Proofs.Value.Entries
import Cartography.Style.Layer

/-!
# The two forms of a layer

A layer is made of an id with a source, a type and properties, or of an id with a single mapping that
has all of these in it. Both forms make the same layer, or are turned down with the same breach.
-/

namespace Cartography.Layer

/-- Properties with a source and a type put among them. -/
def gathered (source kind : Value) (properties : Fields) : Fields :=
  (properties.set "source" source).set "type" kind

variable {properties : Fields}

/-- What is gathered in a mapping is taken out of it as it was. -/
theorem split_gathered (source kind : Value) (noSource : properties.has "source" = false)
    (noType : properties.has "type" = false) :
    split (.mapping (gathered source kind properties)) .null .null =
      (source, kind, .mapping properties) := by
  have sourced : (gathered source kind properties).get? "source" = some source := by
    rw [gathered, Fields.get?_set_of_ne _ _ (by decide), Fields.get?_set_self]
  have typed : (gathered source kind properties).get? "type" = some kind :=
    Fields.get?_set_self _ _ _
  have rest : ((gathered source kind properties).erase "source").erase "type" = properties := by
    rw [gathered, Fields.erase_set_of_ne _ _ (by decide), Fields.erase_set_of_absent noSource,
      Fields.erase_set_of_absent noType]
  rw [split, sourced, typed, rest]
  rfl

/-- Nothing is taken out of properties that are given apart. -/
theorem split_apart (source kind : Value) (properties : Fields) :
    split source kind (.mapping properties) = (source, kind, .mapping properties) := by
  unfold split
  split
  · rename_i same
    cases same
  · rfl

/-- A layer has its id, its type and its source, and the style of the properties laid over them. -/
theorem build_apart (settings : Settings) (id source kind : Value) (properties : Fields) :
    build settings id source kind (.mapping properties) =
      (sourceField settings source).map fun found =>
        (withField (withField [("id", id)] "type" kind) "source" found).merge
          (Style.ofProperties properties).toFields := by
  simp only [build, split_apart]
  cases sourceField settings source <;> rfl

/-- Only a source that is no reference keeps a layer from being made of a mapping of properties. -/
theorem build_ok_or_breach (settings : Settings) (id source kind : Value) (properties : Fields) :
    (∃ layer, build settings id source kind (.mapping properties) = .ok layer) ∨
      build settings id source kind (.mapping properties) =
        .error (.breach (.sourceNotReference source.kind)) := by
  rw [build_apart]
  cases source with
  | null => exact Or.inl ⟨_, rfl⟩
  | text raw => exact Or.inl ⟨_, rfl⟩
  | mapping data => exact Or.inl ⟨_, rfl⟩
  | _ => exact Or.inr rfl

/-- **The two forms of a layer agree.** Whatever the id, the source, the type and the properties, of
which none is itself a source or a type: the layer is the same whether these are given one by one or
in a single mapping, or both forms are turned down with the same breach. -/
theorem forms_agree (settings : Settings) (id source kind : Value)
    (noSource : properties.has "source" = false) (noType : properties.has "type" = false) :
    (∃ layer, ofArguments settings [id, source, kind, .mapping properties] = .ok layer ∧
        ofArguments settings [id, .mapping (gathered source kind properties)] = .ok layer) ∨
      ∃ b, ofArguments settings [id, source, kind, .mapping properties] = .error (.breach b) ∧
        ofArguments settings [id, .mapping (gathered source kind properties)] =
          .error (.breach b) := by
  have same : ofArguments settings [id, .mapping (gathered source kind properties)] =
      ofArguments settings [id, source, kind, .mapping properties] := by
    rw [ofArguments, ofArguments, build, build, split_gathered source kind noSource noType,
      split_apart]
  rw [same]
  rcases build_ok_or_breach settings id source kind properties with ⟨layer, made⟩ | failed
  · exact Or.inl ⟨layer, made, made⟩
  · exact Or.inr ⟨_, failed, failed⟩

/-- A layer of features given on the spot has no type of its own, and its properties hold an id and a
paint half, which are laid over the rest: the id takes the place of the layer's, and the paint
property that of the half. -/
theorem forms_agree_of_features :
    let features : Value := .mapping [("type", .text "Point"), ("source", .text "survey")]
    let properties : Fields := [("id", .text "other"),
      ("paint", .mapping [("line-width", .integer 1)]),
      ("sourceLayer", .text "roads"), ("lineWidth", .integer 2)]
    let layer : Fields := [("id", .text "other"),
      ("source", .mapping [("type", .text "geojson"), ("data", features)]),
      ("paint", .mapping [("line-width", .integer 2)]), ("source-layer", .text "roads")]
    (properties.has "source" = false ∧ properties.has "type" = false) ∧
      ofArguments .standard [.text "roads", features, .null, .mapping properties] = .ok layer ∧
      ofArguments .standard [.text "roads", .mapping (gathered features .null properties)] =
        .ok layer := by
  intro features properties layer
  have noSource : properties.has "source" = false := rfl
  have noType : properties.has "type" = false := rfl
  have made : ofArguments .standard [.text "roads", features, .null, .mapping properties] =
      .ok layer := rfl
  refine ⟨⟨noSource, noType⟩, made, ?_⟩
  obtain ⟨found, apart, together⟩ | ⟨b, apart, -⟩ :=
    forms_agree .standard (.text "roads") features .null noSource noType
  · rw [← made, apart]
    exact together
  · exact nomatch apart.symm.trans made

end Cartography.Layer
