import Cartography.Proofs.Source.NormalForm
import Cartography.Proofs.Toolkit.LooseSources

/-!
# Adding a source a second time

What the host is given of a source is a loose argument as well. It is taken for the same kind of
source, by its type, and comes out as it went in: the fields that were registered are registered
again, without one more or less.
-/

namespace Cartography

/-- A raster mapping does not give the tile size as null. -/
def Fields.LeavesSize (fields : Fields) : Prop :=
  (∃ kind ∈ RasterSource.kinds, fields.typeValue = .text kind) →
    fields.get? "tileSize" ≠ some .null

/-- A command adds a source from a loose argument, from one of vector tiles or from one of features
whose options leave the names alone that the operation has taken itself. -/
inductive Command.AddsSettled : Command → Prop
  | loose (id spec : Value) (sized : ∀ fields : Fields, spec = .mapping fields → fields.LeavesSize) :
      AddsSettled (.addSource id spec)
  | vector (id spec : Value) (options : Fields) : AddsSettled (.addVector id spec options)
  | geojson (id data : Value) (options : Fields) (noId : options.has "source_id" = false)
      (noSelf : options.has "self" = false) : AddsSettled (.addGeojson id data options)

namespace Toolkit

variable {settings : Settings} {spec : Value} {fields options made : Fields}

/-! ### Where a mapping goes by its type -/

theorem mappedSource_vector (kind : fields.typeValue = .text "vector") :
    mappedSource settings fields = Source.vector settings (.mapping (fields.erase "type")) [] := by
  rw [mappedSource, describedSource, ← Fields.typeValue, kind]
  rfl

theorem mappedSource_raster {kind : String} (listed : kind ∈ RasterSource.kinds)
    (typed : fields.typeValue = .text kind) :
    mappedSource settings fields =
      Source.raster settings (.mapping (fields.erase "type")) (some (.text kind)) [] := by
  have apart : ∀ kind ∈ RasterSource.kinds, kind ∉ featureTypes ∧ kind ≠ "vector" := by decide
  obtain ⟨noFeature, noVector⟩ := apart kind listed
  rw [mappedSource, describedSource, ← Fields.typeValue, typed]
  simp only [if_neg noFeature, if_neg noVector, if_pos listed]

/-! ### One kind of source after the other -/

theorem again_vector (done : Source.vector settings spec options = .ok made) :
    mappedSource settings made = .ok made := by
  obtain ⟨checked, source, passed, rfl⟩ := Source.vector_eq_ok done
  have kind : Fields.typeValue source.toFields = .text "vector" := by
    rw [Fields.typeValue, VectorSource.toFields, SourceSpec.get?_type (by simp)]
    rfl
  rw [mappedSource_vector kind]
  exact Source.vector_toFields passed

/-- What a source of features is given besides them is found in what the host is given. -/
theorem has_features {data : Value} {given : Fields} {key : String}
    (shown : made = GeojsonSource.toFields ⟨data, SourceSpec.others ["type", "data"] given⟩)
    (other : key ∉ ["type", "data"]) (free : given.has key = false) : made.has key = false := by
  rw [Fields.has, Option.isSome_eq_false_iff, Option.isNone_iff_eq_none, ← Fields.get?,
    Fields.get?_eq_none_iff] at free ⊢
  rintro entry member rfl
  rw [shown, GeojsonSource.toFields, SourceSpec.mem_present, List.mem_append,
    SourceSpec.mem_others] at member
  rcases member.1 with own | ⟨listed, -⟩
  · simp only [List.mem_cons, List.not_mem_nil, or_false] at own
    rcases own with rfl | rfl <;> simp at other
  · exact free entry listed rfl

theorem again_geojson {data : Value} (done : Source.geojson (some data) options = .ok made)
    (noId : options.has "source_id" = false) (noSelf : options.has "self" = false) :
    mappedSource settings made = .ok made := by
  obtain ⟨features, filled, shown⟩ := Source.geojson_eq_ok done
  have kind : made.typeValue = .text "geojson" := by
    rw [Fields.typeValue, shown, GeojsonSource.toFields, List.cons_append,
      SourceSpec.get?_present_self (by simp)]
    rfl
  have free : ((made.erase "type").has "source_id" || (made.erase "type").has "self") = false := by
    rw [has_or_erase_type (by decide) (by decide), has_features shown (by decide) noId,
      has_features shown (by decide) noSelf, Bool.or_false]
  obtain ⟨held, again⟩ := Source.geojson_toFields filled shown
  rw [mappedSource_geojson kind, featureSource, free, if_neg (by simp), held]
  exact again

/-- A raster mapping that does not give the tile size as null makes a source that has one. -/
theorem exists_tileSize {bare : Fields} {kind : Value} {source : RasterSource}
    (sized : bare.get? "tileSize" ≠ some .null)
    (checked : RasterSource.ofFields (Source.rasterFields settings bare [] kind) = .ok source) :
    ∃ size, source.tileSize = some size := by
  obtain ⟨measured, -⟩ := Source.checked_rasterFields checked
  rw [Fields.merge_nil] at measured
  rcases Checked.optional_eq_ok.mp measured with ⟨null, -⟩ | ⟨_, size, -, -, -, found⟩
  · cases given : bare.get? "tileSize" with
    | none =>
        rw [given] at null
        cases null
    | some value =>
        rw [given] at null sized
        exact absurd (congrArg some null) sized
  · exact ⟨size, found⟩

/-- The kind of a raster source is the one that is asked for. -/
theorem kind_rasterFields {bare : Fields} {kind : String} (listed : kind ∈ RasterSource.kinds)
    {source : RasterSource}
    (checked : RasterSource.ofFields (Source.rasterFields settings bare [] (.text kind)) =
      .ok source) : source.kind = kind := by
  obtain ⟨-, -, typed, -⟩ := RasterSource.ofFields_eq_ok.mp checked
  rw [SourceSpec.typeField, Source.rasterFields, Fields.get?_set_self] at typed
  have found : Except.ok kind = Except.ok source.kind := (if_pos listed).symm.trans typed
  exact (Except.ok.inj found).symm

theorem again_raster {kind : String} (listed : kind ∈ RasterSource.kinds)
    (sized : fields.get? "tileSize" ≠ some .null)
    (done : Source.raster settings (.mapping fields) (some (.text kind)) [] = .ok made) :
    mappedSource settings made = .ok made := by
  obtain ⟨_, _, bare, source, chosen, tiled, checked, rfl⟩ := Source.raster_eq_ok done
  obtain ⟨rfl, rfl⟩ := Prod.mk.inj (Except.ok.inj chosen)
  obtain rfl := Except.ok.inj tiled
  rw [← Fields.get?_erase_of_ne fields (show "tileSize" ≠ "type" by decide)] at sized
  obtain ⟨size, found⟩ := exists_tileSize sized checked
  obtain rfl := kind_rasterFields listed checked
  have typed : Fields.typeValue source.toFields = .text source.kind := by
    rw [Fields.typeValue, RasterSource.toFields]
    exact congrArg (Option.getD · Value.null) (SourceSpec.get?_type (by simp))
  rw [mappedSource_raster listed typed]
  exact Source.raster_toFields checked (Source.tileSizeKey_rasterFields ..) found

/-! ### Whatever was registered -/

/-- A text that the rules take for a source given on the spot. -/
theorem again_ofText {raw : String} (found : SourceReference.ofText settings raw = .inline made) :
    mappedSource settings made = .ok made := by
  rw [SourceReference.ofText] at found
  split_ifs at found
  · cases found
    have built : Source.vector settings (.mapping [("url", .text raw)]) [] = .ok _ := rfl
    exact again_vector built
  · cases found
    have built : Source.vector settings (.mapping [("tiles", .texts [raw])]) [] = .ok _ := rfl
    exact again_vector built
  · cases found
    have built : Source.geojson (some (.text raw)) [] = .ok _ := rfl
    exact again_geojson built rfl rfl

theorem again_mappedSource (sized : fields.LeavesSize)
    (done : mappedSource settings fields = .ok made) : mappedSource settings made = .ok made := by
  have built := done
  rw [mappedSource, describedSource, ← Fields.typeValue] at built
  split at built
  · rename_i kind typed
    split_ifs at built with feature vector raster geojson
    · exact again_geojson built rfl rfl
    · exact again_vector built
    · refine again_raster raster ?_ built
      rw [Fields.get?_erase_of_ne _ (by decide)]
      exact sized ⟨kind, raster, typed⟩
    · rw [featureSource] at built
      split_ifs at built with taken
      rw [Bool.not_eq_true, Bool.or_eq_false_iff] at taken
      obtain ⟨noId, noSelf⟩ := taken
      exact again_geojson built ((Fields.has_erase_of_ne _ (by decide)).trans noId)
        ((Fields.has_erase_of_ne _ (by decide)).trans noSelf)
    · cases built
      exact done
  · split_ifs at built
    · exact again_vector built
    · cases built
      exact done
  · split_ifs at built
    cases built
    exact done

theorem again_looseSource (sized : ∀ fields : Fields, spec = .mapping fields → fields.LeavesSize)
    (done : looseSource settings spec = .ok made) : mappedSource settings made = .ok made := by
  unfold looseSource at done
  split at done
  · split at done
    · rename_i found
      cases done
      exact again_ofText found
    · exact again_vector done
  · exact again_mappedSource (sized _ rfl) done
  · cases done

end Toolkit

open Toolkit

variable {settings : Settings}

/-- **Sources are registered in a form that stays.** What a command registers of a source is
registered as it is when it is added again, under the same id or under any other one that can be
shown. -/
theorem registers_again {command : Command} (settled : command.AddsSettled) {id : Value}
    {made : Fields} (registers : (command.script settings).Registers id made) {again : Value}
    (shown : again = id ∨ ¬ again.HoldsOversized) :
    ((Command.addSource again (.mapping made)).script settings).Registers again made := by
  have built : mappedSource settings made = .ok made ∧ ¬ id.HoldsOversized := by
    cases settled with
    | loose first spec sized =>
        obtain ⟨rfl, done, first⟩ := registers_inv registers
        exact ⟨again_looseSource sized done, first⟩
    | vector first spec options =>
        obtain ⟨rfl, done, first⟩ := registers_inv registers
        exact ⟨again_vector done, first⟩
    | geojson first data options noId noSelf =>
        obtain ⟨rfl, done, first⟩ := registers_inv registers
        exact ⟨again_geojson done noId noSelf, first⟩
  rw [script_addSource, registers_iff]
  refine ⟨built.1, ?_⟩
  rcases shown with rfl | other
  · exact built.2
  · exact other

/-- A terrain source is registered with its tile size as an integer and without nulls, and stays as
it is when it is added again under another id. -/
theorem terrain_registers_again :
    ((Command.addSource (.text "dem") (.mapping [("type", .text "raster-dem"),
      ("url", .text "mapbox://terrain"), ("tileSize", .text "256"), ("attribution", .null),
      ("maxzoom", .integer 14)])).script .standard).Registers (.text "dem")
        [("url", .text "mapbox://terrain"), ("type", .text "raster-dem"),
          ("tileSize", .integer 256), ("maxzoom", .integer 14)] ∧
      ((Command.addSource (.text "hills") (.mapping [("url", .text "mapbox://terrain"),
        ("type", .text "raster-dem"), ("tileSize", .integer 256),
        ("maxzoom", .integer 14)])).script .standard).Registers (.text "hills")
          [("url", .text "mapbox://terrain"), ("type", .text "raster-dem"),
            ("tileSize", .integer 256), ("maxzoom", .integer 14)] := by
  have registers : ((Command.addSource (.text "dem") (.mapping [("type", .text "raster-dem"),
      ("url", .text "mapbox://terrain"), ("tileSize", .text "256"), ("attribution", .null),
      ("maxzoom", .integer 14)])).script .standard).Registers (.text "dem")
        [("url", .text "mapbox://terrain"), ("type", .text "raster-dem"),
          ("tileSize", .integer 256), ("maxzoom", .integer 14)] :=
    registers_iff.mpr ⟨rfl, Value.shown_text "dem"⟩
  refine ⟨registers, registers_again (.loose _ _ ?_) registers
    (Or.inr (Value.shown_text "hills"))⟩
  rintro fields same -
  cases same
  simp [Fields.get?_cons]

end Cartography
