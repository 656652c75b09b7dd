import Cartography.Proofs.Validation.Checks
import Cartography.Proofs.Value.Entries
import Cartography.Source.Loose

/-!
# Checked sources

What the check of a source establishes about its fields, and what of them the host is given.
-/

namespace Cartography

namespace SourceSpec

theorem mem_present {fields : Fields} {entry : String × Value} :
    entry ∈ present fields ↔ entry ∈ fields ∧ entry.2 ≠ .null := by
  obtain ⟨key, value⟩ := entry
  cases value <;> simp [present, List.mem_filter]

theorem get?_present_of_ne {name key : String} (ne : key ≠ name) {value : Value} {rest : Fields} :
    Fields.get? (present ((name, value) :: rest)) key = Fields.get? (present rest) key := by
  cases value <;> simp [present, Fields.get?_cons, ne]

theorem get?_present_self {key : String} {value : Value} (filled : value ≠ .null) {rest : Fields} :
    Fields.get? (present ((key, value) :: rest)) key = some value := by
  cases value <;> first
    | exact absurd rfl filled
    | simp [present, Fields.get?_cons]

theorem mem_others {known : List String} {fields : Fields} {entry : String × Value} :
    entry ∈ others known fields ↔ entry ∈ fields ∧ entry.1 ∉ known := by
  simp [others, List.mem_filter]

@[simp] theorem present_append (fields later : Fields) :
    present (fields ++ later) = present fields ++ present later :=
  List.filter_append ..

@[simp] theorem present_present (fields : Fields) : present (present fields) = present fields := by
  simp [present, List.filter_filter]

@[simp] theorem others_append (known : List String) (fields later : Fields) :
    others known (fields ++ later) = others known fields ++ others known later :=
  List.filter_append ..

@[simp] theorem others_others (known : List String) (fields : Fields) :
    others known (others known fields) = others known fields := by
  simp [others, List.filter_filter]

theorem others_present (known : List String) (fields : Fields) :
    others known (present fields) = present (others known fields) := by
  simp only [others, present, List.filter_filter]
  exact List.filter_congr fun _ _ => Bool.and_comm ..

end SourceSpec

open SourceSpec

/-- The fields of a vector source pass its check exactly when each of them passes its own and they
say where the tiles are. The source keeps all that the check does not know. -/
theorem VectorSource.ofFields_eq_ok {fields : Fields} {source : VectorSource} :
    ofFields fields = .ok source ↔
      optionalText fields "url" = .ok source.url ∧
      optionalTexts fields "tiles" = .ok source.tiles ∧
      (∃ kind, typeField ["vector"] fields = .ok kind) ∧
      hasTiles source.url source.tiles = true ∧
      source.extra = others ["url", "tiles", "type"] fields := by
  obtain ⟨url, tiles, extra⟩ := source
  simp only [ofFields]
  constructor
  · intro made
    split at made
    · rename_i kind hasUrl hasTemplates hasKind
      split at made
      · rename_i placed
        cases made
        exact ⟨hasUrl, hasTemplates, ⟨kind, hasKind⟩, placed, rfl⟩
      · cases made
    · cases made
  · rintro ⟨hasUrl, hasTemplates, ⟨kind, hasKind⟩, placed, rfl⟩
    simp only [hasUrl, hasTemplates, hasKind, placed, if_true]

/-- The fields of a raster source pass its check exactly when each of them passes its own and
they say where the tiles are. The source keeps all that the check does not know. -/
theorem RasterSource.ofFields_eq_ok {fields : Fields} {source : RasterSource} :
    ofFields fields = .ok source ↔
      optionalText fields "url" = .ok source.url ∧
      optionalTexts fields "tiles" = .ok source.tiles ∧
      typeField kinds fields = .ok source.kind ∧
      Checked.optional (Checked.positive (tileSizeKey fields))
        (fields.get? (tileSizeKey fields)) = .ok source.tileSize ∧
      hasTiles source.url source.tiles = true ∧
      source.extra = others ["url", "tiles", "type", tileSizeKey fields] fields := by
  obtain ⟨url, tiles, kind, tileSize, extra⟩ := source
  simp only [ofFields]
  constructor
  · intro made
    split at made
    · rename_i hasUrl hasTemplates hasKind hasSize
      split at made
      · rename_i placed
        cases made
        exact ⟨hasUrl, hasTemplates, hasKind, hasSize, placed, rfl⟩
      · cases made
    · cases made
  · rintro ⟨hasUrl, hasTemplates, hasKind, hasSize, placed, rfl⟩
    simp only [hasUrl, hasTemplates, hasKind, hasSize, placed, if_true]

end Cartography
