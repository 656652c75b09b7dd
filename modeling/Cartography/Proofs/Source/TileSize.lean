import Cartography.Proofs.Outcome
import Cartography.Proofs.Source.Spec

/-!
# The tile size of raster sources

A caller can give the tile size of a raster source under two names, among the fields of a mapping
or among the options. The settings stand in for a size under the host's own name only, and for one
that is absent, not for one that is null.

## Implementation notes

Where a mapping and the options are laid over each other, only entries with the same key meet.
Facts about one key are therefore read off the entries under this key.
-/

namespace Cartography

/-- The fields of a mapping; any other value has none. -/
def Value.fields : Value → Fields
  | .mapping entries => entries
  | _ => []

namespace Source

/-- The fields that a caller gives: those of a mapping with the options laid over them. -/
def given (spec : Value) (options : Fields) : Fields := spec.fields.merge options

/-- The tile size that a caller gives, the host's name for it before the other one. -/
def givenTileSize? (spec : Value) (options : Fields) : Option Value :=
  ((given spec options).filled? "tileSize").or ((given spec options).filled? "tile_size")

/-- A source has a positive tile size under the host's name alone: the integer that the size given
by the caller stands for, or that of the settings where none is given. -/
structure SizesTiles (settings : Settings) (spec : Value) (options made : Fields) : Prop where
  sized : ∃ size : Int, 0 < size ∧ made.get? "tileSize" = some (.integer size) ∧
    match givenTileSize? spec options with
    | some value => Checked.integerOf value = .ok size
    | none => size = settings.rasterTileSize
  alone : made.has "tile_size" = false

/-- Every raster source that the arguments make has the tile size it should have. -/
def KeepsTileSize (settings : Settings) (spec : Value) (kind : Option Value) (options : Fields) :
    Prop :=
  ∀ made, raster settings spec kind options = .ok made → SizesTiles settings spec options made

/-! ### What is checked -/

variable {settings : Settings} {spec : Value} {kind : Option Value} {options made : Fields}

/-- The fields that are checked, made of those of the argument, the options and the kind. -/
def rasterFields (settings : Settings) (fields options : Fields) (kind : Value) : Fields :=
  ((fields.merge options).setDefault "tileSize" (.integer settings.rasterTileSize)).set "type" kind

/-- A raster source is made of fields that pass the check. -/
theorem raster_eq_ok (done : raster settings spec kind options = .ok made) :
    ∃ kind' options' fields source, rasterKind kind options = .ok (kind', options') ∧
      tiledFields settings spec = .ok fields ∧
      RasterSource.ofFields (rasterFields settings fields options' kind') = .ok source ∧
      made = source.toFields := by
  simp only [raster, checkedOptions, bind, bind_eq_ok] at done
  obtain ⟨taken, free, ⟨kind', options'⟩, chosen, fields, tiled, done⟩ := done
  obtain rfl : options = taken := by
    split at free
    · cases free
    · exact Except.ok.inj free
  refine ⟨kind', options', fields, ?_⟩
  split at done
  · rename_i source checked
    exact ⟨source, chosen, tiled, checked, (Except.ok.inj done).symm⟩
  · split at done <;> cases done

theorem under_rasterKind {kind' : Value} {options' : Fields}
    (chosen : rasterKind kind options = .ok (kind', options')) {key : String}
    (other : key ≠ "source_type") : options'.under key = options.under key := by
  unfold rasterKind at chosen
  split at chosen <;> cases chosen
  · rfl
  · exact Fields.under_erase_of_ne options other
  · rfl

theorem under_tiledFields {fields : Fields} (tiled : tiledFields settings spec = .ok fields)
    {key : String} (other : key ∉ ["url", "tiles", "type"]) :
    fields.under key = spec.fields.under key := by
  simp only [List.mem_cons, List.not_mem_nil, or_false, not_or] at other
  obtain ⟨notUrl, notTiles, notType⟩ := other
  unfold tiledFields at tiled
  split at tiled
  · split at tiled <;> cases tiled <;>
      simp [Fields.under, Value.fields, Ne.symm notUrl, Ne.symm notTiles]
  · cases tiled
    exact Fields.under_erase_of_ne _ notType
  · cases tiled

/-- Under most keys, the argument and the options come together as the caller gave them. -/
theorem under_merged {kind' : Value} {options' fields : Fields}
    (chosen : rasterKind kind options = .ok (kind', options'))
    (tiled : tiledFields settings spec = .ok fields) {key : String}
    (other : key ∉ ["url", "tiles", "type"]) (noKind : key ≠ "source_type") :
    (fields.merge options').under key = (given spec options).under key := by
  rw [given, Fields.under_merge, Fields.under_merge, under_rasterKind chosen noKind,
    under_tiledFields tiled other]

/-! ### What is made of it -/

/-- The host's name for the tile size is always among the fields that are checked. -/
theorem get?_tileSize (settings : Settings) (fields options : Fields) (kind : Value) :
    (rasterFields settings fields options kind).get? "tileSize" =
      some (((fields.merge options).get? "tileSize").getD (.integer settings.rasterTileSize)) := by
  rw [rasterFields, Fields.get?_set_of_ne _ _ (by decide), Fields.get?_setDefault_self]

theorem tileSizeKey_rasterFields (settings : Settings) (fields options : Fields) (kind : Value) :
    RasterSource.tileSizeKey (rasterFields settings fields options kind) = "tileSize" := by
  have there := get?_tileSize settings fields options kind
  rw [RasterSource.tileSizeKey, Fields.has, show List.lookup _ _ = _ from there]
  rfl

/-- The tile size of a source that passed the check, and what it is given besides. -/
theorem checked_rasterFields {fields options : Fields} {kind : Value} {source : RasterSource}
    (checked : RasterSource.ofFields (rasterFields settings fields options kind) = .ok source) :
    Checked.optional (Checked.positive "tileSize")
        (some (((fields.merge options).get? "tileSize").getD (.integer settings.rasterTileSize))) =
          .ok source.tileSize ∧
      source.extra = SourceSpec.others ["url", "tiles", "type", "tileSize"]
        (rasterFields settings fields options kind) := by
  obtain ⟨_, _, _, sized, _, rest⟩ := RasterSource.ofFields_eq_ok.mp checked
  rw [tileSizeKey_rasterFields, get?_tileSize] at sized
  rw [tileSizeKey_rasterFields] at rest
  exact ⟨sized, rest⟩

/-- The host is given the tile size of a source under its own name. -/
theorem get?_toFields_tileSize {source : RasterSource} {size : Int}
    (sized : source.tileSize = some size) :
    source.toFields.get? "tileSize" = some (.integer size) := by
  rw [RasterSource.toFields, sized]
  simp only [List.cons_append, List.nil_append]
  rw [SourceSpec.get?_present_of_ne (by decide), SourceSpec.get?_present_of_ne (by decide),
    SourceSpec.get?_present_of_ne (by decide)]
  exact SourceSpec.get?_present_self (by simp [SourceSpec.orNull])

/-- A source without a tile size has none to give. -/
theorem get?_toFields_tileSize_none {source : RasterSource} {fields : Fields}
    (unsized : source.tileSize = none)
    (rest : source.extra = SourceSpec.others ["url", "tiles", "type", "tileSize"] fields) :
    source.toFields.get? "tileSize" = none := by
  rw [Fields.get?_eq_none_iff]
  intro entry member same
  obtain ⟨listed, filled⟩ := SourceSpec.mem_present.mp member
  rcases List.mem_append.mp listed with own | kept
  · rw [unsized] at own
    simp only [List.mem_cons, List.not_mem_nil, or_false] at own
    rcases own with rfl | rfl | rfl | rfl <;> simp at same
    exact filled rfl
  · rw [rest, SourceSpec.mem_others] at kept
    simp [same] at kept

/-- The other name for the tile size is passed on with its value, unless this is null. -/
theorem mem_toFields_other {source : RasterSource} {fields : Fields}
    (rest : source.extra = SourceSpec.others ["url", "tiles", "type", "tileSize"] fields)
    (value : Value) : ("tile_size", value) ∈ source.toFields ↔
      ("tile_size", value) ∈ fields ∧ value ≠ .null := by
  rw [RasterSource.toFields, SourceSpec.mem_present, rest, List.mem_append, SourceSpec.mem_others]
  simp

/-! ### When the size is kept -/

/-- The other name is left out of a source exactly when nothing but null was given under it. -/
theorem has_other_iff {kind' : Value} {options' fields : Fields} {source : RasterSource}
    (chosen : rasterKind kind options = .ok (kind', options'))
    (tiled : tiledFields settings spec = .ok fields)
    (rest : source.extra = SourceSpec.others ["url", "tiles", "type", "tileSize"]
      (rasterFields settings fields options' kind')) :
    source.toFields.has "tile_size" = false ↔
      ∀ value, ("tile_size", value) ∈ given spec options → value = .null := by
  have same : (rasterFields settings fields options' kind').under "tile_size" =
      (given spec options).under "tile_size" := by
    rw [rasterFields, Fields.under_set_of_ne _ _ (by decide),
      Fields.under_setDefault_of_ne _ _ (by decide),
      under_merged chosen tiled (by decide) (by decide)]
  have passed (value : Value) : ("tile_size", value) ∈ source.toFields ↔
      ("tile_size", value) ∈ given spec options ∧ value ≠ .null := by
    rw [mem_toFields_other rest, Fields.mem_iff_of_under same]
  rw [Fields.has, Option.isSome_eq_false_iff, Option.isNone_iff_eq_none, ← Fields.get?,
    Fields.get?_eq_none_iff]
  constructor
  · intro absent value member
    by_contra filled
    exact absent _ ((passed value).mpr ⟨member, filled⟩) rfl
  · rintro empty ⟨key, value⟩ member rfl
    obtain ⟨listed, filled⟩ := (passed value).mp member
    exact filled (empty value listed)

/-- The size that was checked is the one given under the host's name, or else that of the settings,
where nothing but null is given under the other name. -/
theorem fits_of_held {value : Value} {size : Int}
    (held : ((given spec options).get? "tileSize").getD (.integer settings.rasterTileSize) = value)
    (filled : value ≠ .null) (converted : Checked.integerOf value = .ok size)
    (empty : ∀ value, ("tile_size", value) ∈ given spec options → value = .null) :
    match givenTileSize? spec options with
    | some value => Checked.integerOf value = .ok size
    | none => size = settings.rasterTileSize := by
  rw [givenTileSize?, Fields.filled?_eq_none empty, Option.or_none]
  cases found : (given spec options).get? "tileSize" with
  | none =>
      rw [found, Option.getD_none] at held
      subst held
      simpa [Fields.filled?, found, Checked.integerOf] using converted.symm
  | some given =>
      rw [found, Option.getD_some] at held
      subst held
      rw [Fields.filled?_eq_some_iff.mpr ⟨found, filled⟩]
      exact converted

/-- A source that was made has the tile size it should have exactly when the caller gave no null
under the host's name and nothing but null under the other one. -/
theorem sizesTiles_iff (done : raster settings spec kind options = .ok made) :
    SizesTiles settings spec options made ↔
      (given spec options).get? "tileSize" ≠ some .null ∧
        ∀ value, ("tile_size", value) ∈ given spec options → value = .null := by
  obtain ⟨kind', options', fields, source, chosen, tiled, checked, rfl⟩ := raster_eq_ok done
  obtain ⟨sized, rest⟩ := checked_rasterFields checked
  have alone := has_other_iff chosen tiled rest
  have merged : (fields.merge options').get? "tileSize" = (given spec options).get? "tileSize" := by
    rw [← Fields.get?_under, under_merged chosen tiled (by decide) (by decide), Fields.get?_under]
  rw [merged] at sized
  constructor
  · rintro ⟨⟨size, _, shown, _⟩, absent⟩
    refine ⟨?_, alone.mp absent⟩
    -- With null under the host's name, the settings do not stand in.
    intro null
    have unsized : source.tileSize = none := by
      rw [null] at sized
      exact (Except.ok.inj sized).symm
    rw [get?_toFields_tileSize_none unsized rest] at shown
    cases shown
  · rintro ⟨notNull, empty⟩
    refine ⟨?_, alone.mpr empty⟩
    rcases Checked.optional_eq_ok.mp sized with
      ⟨null, _⟩ | ⟨value, size, held, filled, positive, hasSize⟩
    · cases found : (given spec options).get? "tileSize" with
      | none => simp [found] at null
      | some value =>
          rw [found] at null notNull
          exact absurd (congrArg some null) notNull
    · obtain ⟨converted, large⟩ := Checked.positive_eq_ok.mp positive
      exact ⟨size, large, get?_toFields_tileSize hasSize,
        fits_of_held (Option.some.inj held) filled converted empty⟩

/-- **When raster sources keep to the tile size.** The sources that some arguments make have a
positive tile size, the one given under either name or else that of the settings, exactly when the
host's name for it is not given with null and the other name is given with nothing but null. -/
theorem keepsTileSize_iff (settings : Settings) (spec : Value) (kind : Option Value)
    (options : Fields) :
    KeepsTileSize settings spec kind options ↔
      ((∃ made, raster settings spec kind options = .ok made) →
        (given spec options).get? "tileSize" ≠ some .null ∧
          ∀ value, ("tile_size", value) ∈ given spec options → value = .null) := by
  constructor
  · rintro keeps ⟨made, done⟩
    exact (sizesTiles_iff done).mp (keeps made done)
  · intro fits made done
    exact (sizesTiles_iff done).mpr (fits ⟨made, done⟩)

/-- A size under the other name is passed over, and null under the host's name leaves a source
without any. -/
theorem not_keepsTileSize :
    ¬ KeepsTileSize .standard (.text "mapbox://mapbox.satellite") none
        [("tile_size", .integer 256)] ∧
      ¬ KeepsTileSize .standard (.mapping [("url", .text "mapbox://mapbox.satellite"),
        ("tileSize", .null)]) none [] := by
  constructor
  · intro keeps
    have done : raster .standard (.text "mapbox://mapbox.satellite") none
        [("tile_size", .integer 256)] = .ok [("url", .text "mapbox://mapbox.satellite"),
          ("type", .text "raster"), ("tileSize", .integer 512),
          ("tile_size", .integer 256)] := rfl
    obtain ⟨_, alone⟩ := keeps _ done
    exact absurd alone (by decide)
  · intro keeps
    have done : raster .standard (.mapping [("url", .text "mapbox://mapbox.satellite"),
        ("tileSize", .null)]) none [] = .ok [("url", .text "mapbox://mapbox.satellite"),
          ("type", .text "raster")] := rfl
    obtain ⟨⟨size, _, shown, _⟩, _⟩ := keeps _ done
    cases shown

end Source

end Cartography
