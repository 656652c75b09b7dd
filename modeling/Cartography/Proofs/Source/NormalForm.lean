import Cartography.Proofs.Source.Contract
import Cartography.Proofs.Source.TileSize

/-!
# Checking a source twice

The fields that the host is given of a checked source pass the same check again, and nothing is
added to them or left out the second time. They hold no null, they say where the tiles are and how
large these are, and what the check does not know it hands on as it is.

## Implementation notes

The type of a source decides which check it goes to and is not among the fields that are checked.
What is known of a source and what it was given besides are laid one behind the other, so that a
field is looked up in one of the two parts only.
-/

namespace Cartography

namespace SourceSpec

variable {known : List String} {own fields rest : Fields}

/-! ### What a source was given besides -/

/-- A known field does not count among the others. -/
theorem others_erase {key : String} (listed : key ∈ known) (fields : Fields) :
    others known (fields.erase key) = others known fields := by
  rw [others, Fields.erase, List.filter_filter]
  refine List.filter_congr fun entry _ => ?_
  by_cases same : entry.1 = key
  · simp [same, listed]
  · simp [same]

theorem others_set {key : String} (listed : key ∈ known) (value : Value) (fields : Fields) :
    others known (fields.set key value) = others known fields := by
  induction fields with
  | nil => simp [Fields.set, others, listed]
  | cons entry rest ih =>
      rw [Fields.set]
      split
      · rename_i same
        obtain rfl : key = entry.1 := by simpa using same
        simp [others, listed]
      · show others known ([entry] ++ Fields.set rest key value) = others known ([entry] ++ rest)
        rw [others_append, others_append, ih]

theorem ne_of_mem_others {key : String} (listed : key ∈ known) :
    ∀ entry ∈ others known fields, entry.1 ≠ key := by
  rintro entry member rfl
  exact (mem_others.mp member).2 listed

/-- Of the fields that the host is given, the others are those that the source was given
besides. -/
theorem others_spec (listed : ∀ entry ∈ own, entry.1 ∈ known) (fields : Fields) :
    others known (present (own ++ others known fields)) = present (others known fields) := by
  have none : others known own = [] := by
    simpa [others, List.filter_eq_nil_iff] using listed
  rw [others_present, others_append, none, others_others, List.nil_append]

/-! ### A known field in what the host is given -/

/-- A field is checked alike whether it is null or left out. -/
theorem optional_present {α : Type} (check : Value → Checked α) {key : String} {value : Value}
    (absent : ∀ entry ∈ rest, entry.1 ≠ key) :
    Checked.optional check (Fields.get? (present ((key, value) :: rest)) key) =
      Checked.optional check (some value) := by
  by_cases null : value = .null
  · have unfound : Fields.get? (present ((key, value) :: rest)) key = none := by
      rw [Fields.get?_eq_none_iff]
      intro entry member
      obtain ⟨listed, filled⟩ := mem_present.mp member
      rcases List.mem_cons.mp listed with rfl | later
      · exact absurd null filled
      · exact absent entry later
    rw [unfound, null]
    rfl
  · rw [get?_present_self null]

theorem optional_text (key : String) (url : Option String) :
    Checked.optional (Checked.text key) (some (orNull .text url)) = .ok url := by
  cases url <;> rfl

theorem optional_texts (key : String) (defect : Defect) (tiles : Option (List String)) :
    Checked.optional (Checked.texts key defect) (some (orNull .texts tiles)) = .ok tiles := by
  cases tiles with
  | none => rfl
  | some items =>
      show (Checked.textsFrom key 0 (items.map .text)).map some = _
      rw [Checked.textsFrom_map_text]
      rfl

theorem optional_positive (key : String) {size : Int} (large : 0 < size) :
    Checked.optional (Checked.positive key) (some (orNull .integer (some size))) =
      .ok (some size) := by
  show (Checked.positive key (.integer size)).map some = _
  rw [Checked.positive_eq_ok.mpr ⟨rfl, large⟩]
  rfl

/-- Fields that are not null in themselves may stand for what a source was given besides. -/
theorem present_append_present (own rest : Fields) :
    present (own ++ present rest) = present (own ++ rest) := by
  rw [present_append, present_present, ← present_append]

/-! ### Where the tiles are -/

section Tiled

variable {url : Option String} {tiles : Option (List String)} {kind : Value}

theorem optional_url (absent : ∀ entry ∈ rest, entry.1 ≠ "url") :
    Checked.optional (Checked.text "url") (Fields.get? (present ([("url", orNull .text url),
      ("tiles", orNull .texts tiles), ("type", kind)] ++ rest)) "url") = .ok url := by
  rw [List.cons_append, optional_present _ (by simpa using absent), optional_text]

theorem optional_tiles (absent : ∀ entry ∈ rest, entry.1 ≠ "tiles") :
    Checked.optional (Checked.texts "tiles" .notList) (Fields.get? (present
      ([("url", orNull .text url), ("tiles", orNull .texts tiles), ("type", kind)] ++ rest))
        "tiles") = .ok tiles := by
  rw [List.cons_append, get?_present_of_ne (by decide), List.cons_append,
    optional_present _ (by simpa using absent), optional_texts]

theorem get?_type (filled : kind ≠ .null) :
    Fields.get? (present ([("url", orNull .text url), ("tiles", orNull .texts tiles),
      ("type", kind)] ++ rest)) "type" = some kind := by
  rw [List.cons_append, get?_present_of_ne (by decide), List.cons_append,
    get?_present_of_ne (by decide), List.cons_append, get?_present_self filled]

end Tiled

end SourceSpec

open SourceSpec

namespace Source

variable {settings : Settings} {spec : Value} {kind : Option Value} {options made : Fields}

theorem orBreach_eq_ok {α : Type} {sourceKind : String} {checked : Except Report α} {a : α} :
    orBreach sourceKind checked = .ok a ↔ checked = .ok a := by
  cases checked <;> simp [orBreach]

/-- Apart from the type, nothing is lost where the type is taken away twice. -/
theorem get?_untyped (fields : Fields) {key : String} (ne : key ≠ "type") :
    ((fields.erase "type").erase "type").get? key = fields.get? key := by
  rw [Fields.get?_erase_of_ne _ ne, Fields.get?_erase_of_ne _ ne]

/-! ### Features -/

/-- A source of features has features that are not null, and besides them what it is given. -/
theorem geojson_eq_ok {data : Value} (done : geojson (some data) options = .ok made) :
    ∃ features, features ≠ .null ∧
      made = GeojsonSource.toFields ⟨features, others ["type", "data"] options⟩ := by
  cases found : options.get? "data" with
  | some given =>
      simp only [geojson, found] at done
      cases done
  | none =>
      rw [geojson_eq found, bind_eq_ok] at done
      obtain ⟨source, checked, shown⟩ := done
      obtain rfl := Except.ok.inj shown
      have made := orBreach_eq_ok.mp checked
      rw [GeojsonSource.ofFields] at made
      split at made
      · obtain rfl := Except.ok.inj made
        by_cases null : data = .null
        · subst null
          refine ⟨SourceSpec.emptyCollection, by simp [SourceSpec.emptyCollection], ?_⟩
          rw [withData, found]
          rfl
        · refine ⟨data, null, ?_⟩
          rw [withData_of_ne null, Fields.get?_set_self, others_set (by simp)]
          rfl
      · cases made

/-- The features of a source and what it has besides make the same source of features. -/
theorem geojson_toFields {features : Value} {given : Fields} (filled : features ≠ .null)
    (shown : made = GeojsonSource.toFields ⟨features, others ["type", "data"] given⟩) :
    (made.erase "type").get? "data" = some features ∧
      geojson (some features) ((made.erase "type").erase "data") = .ok made := by
  have held : (made.erase "type").get? "data" = some features := by
    rw [Fields.get?_erase_of_ne _ (by decide), shown, GeojsonSource.toFields, List.cons_append,
      get?_present_of_ne (by decide), List.cons_append, get?_present_self filled]
  have rest : others ["type", "data"] made = present (others ["type", "data"] given) := by
    rw [shown, GeojsonSource.toFields, others_spec (by simp)]
  have untyped : (((made.erase "type").erase "data").set "data" features).get? "type" = none := by
    rw [Fields.get?_set_of_ne _ _ (by decide), Fields.get?_erase_of_ne _ (by decide),
      Fields.get?_erase_self]
  refine ⟨held, ?_⟩
  rw [geojson_eq (Fields.get?_erase_self _ _), withData_of_ne filled,
    GeojsonSource.ofFields_untyped untyped, Fields.get?_set_self, others_set (by simp),
    others_erase (by simp), others_erase (by simp), rest, shown]
  exact congrArg Except.ok (present_append_present _ _)

/-! ### Vector tiles -/

/-- A vector source is made of fields that pass the check. -/
theorem vector_eq_ok (done : vector settings spec options = .ok made) :
    ∃ fields source, VectorSource.ofFields fields = .ok source ∧ made = source.toFields := by
  simp only [vector, bind, bind_eq_ok, orBreach_eq_ok] at done
  obtain ⟨taken, -, fields, -, source, checked, shown⟩ := done
  exact ⟨fields.merge taken, source, checked, (Except.ok.inj shown).symm⟩

/-- The fields of a vector source, without the type, make the same vector source. -/
theorem vector_toFields {fields : Fields} {source : VectorSource}
    (checked : VectorSource.ofFields fields = .ok source) :
    vector settings (.mapping (source.toFields.erase "type")) [] = .ok source.toFields := by
  obtain ⟨-, -, -, placed, rest⟩ := VectorSource.ofFields_eq_ok.mp checked
  have again : VectorSource.ofFields ((source.toFields.erase "type").erase "type") =
      .ok ⟨source.url, source.tiles, present source.extra⟩ := by
    refine VectorSource.ofFields_eq_ok.mpr ⟨?_, ?_, ⟨"vector", ?_⟩, placed, ?_⟩
    · rw [optionalText, get?_untyped _ (by decide)]
      exact optional_url (rest ▸ ne_of_mem_others (by simp))
    · rw [optionalTexts, get?_untyped _ (by decide)]
      exact optional_tiles (rest ▸ ne_of_mem_others (by simp))
    · rw [typeField, Fields.get?_erase_self]
      rfl
    · rw [others_erase (by simp), others_erase (by simp), VectorSource.toFields, rest,
        others_spec (by simp)]
  show (orBreach "vector" (VectorSource.ofFields _)).bind (fun s => Except.ok s.toFields) = _
  rw [Fields.merge_nil, again]
  exact congrArg Except.ok (present_append_present _ source.extra)

/-! ### Raster tiles -/

/-- A kind that passed the check is one of the choices, if its default is. -/
theorem mem_of_typeField {choices : List String} {fields : Fields} {found : String}
    (some : choices ≠ []) (checked : typeField choices fields = .ok found) : found ∈ choices := by
  obtain ⟨first, others, rfl⟩ := List.exists_cons_of_ne_nil some
  rw [typeField] at checked
  cases given : fields.get? "type" with
  | none =>
      rw [given] at checked
      obtain rfl := Except.ok.inj checked
      simp
  | some value =>
      rw [given] at checked
      cases value with
      | text s =>
          simp only [Checked.defaulting, Checked.oneOf] at checked
          split at checked
          · rename_i listed
            exact Except.ok.inj checked ▸ listed
          · cases checked
      | _ => cases checked

/-- The fields of a mapping that pass the check make a raster source. -/
theorem raster_of_ofFields {fields : Fields} {kind : Value} {source : RasterSource}
    (checked : RasterSource.ofFields (rasterFields settings (fields.erase "type") [] kind) =
      .ok source) :
    raster settings (.mapping fields) (some kind) [] = .ok source.toFields := by
  have given : checkedOptions [] = .ok [] := rfl
  have made : rasterKind (some kind) [] = .ok (kind, []) := rfl
  have tiled : tiledFields settings (.mapping fields) = .ok (fields.erase "type") := rfl
  rw [rasterFields] at checked
  simp only [raster, given, made, tiled, checked, bind, pure, Except.bind, Except.pure]

/-- A tile size that passed the check is positive. -/
theorem tileSize_pos {fields : Fields} {source : RasterSource} {size : Int}
    (checked : RasterSource.ofFields fields = .ok source) (sized : source.tileSize = some size) :
    0 < size := by
  obtain ⟨-, -, -, measured, -, -⟩ := RasterSource.ofFields_eq_ok.mp checked
  rw [sized] at measured
  rcases Checked.optional_eq_ok.mp measured with ⟨-, none⟩ | ⟨value, found, -, -, passed, same⟩
  · cases none
  · rw [Option.some.inj same]
    exact (Checked.positive_eq_ok.mp passed).2

/-- Fields with those of a raster source, and with its kind, pass the check again. -/
theorem ofFields_again {fields bare : Fields} {source : RasterSource} {size : Int}
    (checked : RasterSource.ofFields fields = .ok source)
    (keyed : RasterSource.tileSizeKey fields = "tileSize") (sized : source.tileSize = some size)
    (kept : ∀ key, key ≠ "type" → bare.get? key = source.toFields.get? key)
    (besides : others ["url", "tiles", "type", "tileSize"] bare = present source.extra) :
    RasterSource.ofFields (rasterFields settings bare [] (.text source.kind)) =
      .ok ⟨source.url, source.tiles, source.kind, some size, present source.extra⟩ := by
  obtain ⟨-, -, typed, -, placed, rest⟩ := RasterSource.ofFields_eq_ok.mp checked
  rw [keyed] at rest
  have listed : source.kind ∈ RasterSource.kinds := mem_of_typeField (by decide) typed
  have held : bare.get? "tileSize" = some (.integer size) := by
    rw [kept _ (by decide), get?_toFields_tileSize sized]
  have same : rasterFields settings bare [] (.text source.kind) =
      bare.set "type" (.text source.kind) := by
    rw [rasterFields, Fields.merge_nil, Fields.setDefault, Fields.has, ← Fields.get?, held]
    rfl
  have apart (key : String) (known : key ∈ ["url", "tiles", "type", "tileSize"])
      (ne : key ≠ "tileSize") :
      ∀ entry ∈ ("tileSize", orNull .integer source.tileSize) :: source.extra, entry.1 ≠ key := by
    rw [List.forall_mem_cons, rest]
    exact ⟨Ne.symm ne, ne_of_mem_others known⟩
  refine RasterSource.ofFields_eq_ok.mpr ⟨?_, ?_, ?_, ?_, placed, ?_⟩
  · rw [same, optionalText, Fields.get?_set_of_ne _ _ (by decide), kept _ (by decide)]
    exact optional_url (apart "url" (by simp) (by decide))
  · rw [same, optionalTexts, Fields.get?_set_of_ne _ _ (by decide), kept _ (by decide)]
    exact optional_tiles (apart "tiles" (by simp) (by decide))
  · rw [same, typeField, Fields.get?_set_self]
    exact if_pos listed
  · rw [tileSizeKey_rasterFields, same, Fields.get?_set_of_ne _ _ (by decide), held]
    exact optional_positive "tileSize" (tileSize_pos checked sized)
  · rw [tileSizeKey_rasterFields, same, others_set (by simp), besides]

/-- The fields of a raster source with a tile size, without the type, make the same raster source
of its kind. -/
theorem raster_toFields {fields : Fields} {source : RasterSource} {size : Int}
    (checked : RasterSource.ofFields fields = .ok source)
    (keyed : RasterSource.tileSizeKey fields = "tileSize") (sized : source.tileSize = some size) :
    raster settings (.mapping (source.toFields.erase "type")) (some (.text source.kind)) [] =
      .ok source.toFields := by
  obtain ⟨-, -, -, -, -, rest⟩ := RasterSource.ofFields_eq_ok.mp checked
  have besides : others ["url", "tiles", "type", "tileSize"]
      ((source.toFields.erase "type").erase "type") = present source.extra := by
    rw [others_erase (by simp), others_erase (by simp), RasterSource.toFields, rest, keyed,
      others_spec (by simp)]
  have again : RasterSource.ofFields (rasterFields settings
      ((source.toFields.erase "type").erase "type") [] (.text source.kind)) = .ok _ :=
    ofFields_again checked keyed sized (fun key => get?_untyped source.toFields) besides
  rw [raster_of_ofFields again]
  simp only [RasterSource.toFields, sized, present_append_present]

end Source

end Cartography
