import Cartography.Proofs.Source.Contract
import Cartography.Proofs.Source.Spec
import Cartography.Proofs.Toolkit.Registering

/-!
# Adding sources from loose arguments

A loose argument is a source that can be added, or it breaks what callers have to keep to. The
type that a mapping gives decides which kind of source it is taken for. What the type can be, and
under which names the rest comes, is up to the caller.
-/

namespace Cartography

/-- The type that a mapping gives; null where it gives none. -/
def Fields.typeValue (fields : Fields) : Value := (fields.get? "type").getD .null

namespace Toolkit

/-- The types by which a mapping is taken for a kind of source. -/
def knownTypes : List String := featureTypes ++ ["vector"] ++ RasterSource.kinds ++ ["geojson"]

/-- A mapping is not taken for any kind of source: its type is not known, and if it has none it
does not say where tiles are either. -/
structure IsOther (fields : Fields) : Prop where
  unknown : ∀ kind ∈ knownTypes, fields.typeValue ≠ .text kind
  placeless : fields.typeValue = .null → fields.has "url" = false ∧ fields.has "tiles" = false

/-- A source has the features of a mapping, or none where these are null or absent, and of the
other fields all that are not null. -/
structure CollectsFeatures (fields made : Fields) : Prop where
  kind : made.get? "type" = some (.text "geojson")
  data : made.get? "data" = some ((fields.filled? "data").getD SourceSpec.emptyCollection)
  others : ∀ key value, key ≠ "type" → key ≠ "data" →
    ((key, value) ∈ made ↔ (key, value) ∈ fields ∧ value ≠ .null)

/-- A source is added, or turned down for a breach. A mapping that is not taken for any kind of
source is added as it is, and one with features is added with all its fields. -/
structure AddsSource (settings : Settings) (id spec : Value) : Prop where
  total : (∃ made, ((Command.addSource id spec).script settings).Registers id made) ∨
    ∃ b, ((Command.addSource id spec).script settings).TurnsDown (.breach b)
  passed : ∀ fields : Fields, spec = .mapping fields → IsOther fields →
    ((Command.addSource id spec).script settings).Registers id fields
  collected : ∀ fields : Fields, spec = .mapping fields → fields.typeValue = .text "geojson" →
    ∃ made, ((Command.addSource id spec).script settings).Registers id made ∧
      CollectsFeatures fields made

/-- A mapping gives a type that can be looked up, and with features it leaves the names alone that
the operation has taken itself. -/
structure Forwardable (fields : Fields) : Prop where
  key : fields.typeValue.isKey = true
  free : fields.typeValue = .text "geojson" →
    fields.has "source_id" = false ∧ fields.has "self" = false

/-! ### Sources of features -/

variable {settings : Settings} {id spec : Value} {fields : Fields}

/-- Of names apart from the type, a mapping has the same with its type and without it. -/
theorem has_or_erase_type {one other : String} (first : one ≠ "type") (second : other ≠ "type") :
    ((fields.erase "type").has one || (fields.erase "type").has other) =
      (fields.has one || fields.has other) := by
  rw [Fields.has_erase_of_ne fields first, Fields.has_erase_of_ne fields second]

/-- A source of features has the fields that it is made of, apart from those that it knows. -/
theorem collects_toFields {data : Value} {rest : Fields} (filled : data ≠ .null)
    (holds : data = (fields.filled? "data").getD SourceSpec.emptyCollection)
    (kept : ∀ key, key ∉ ["type", "data"] → rest.under key = fields.under key) :
    CollectsFeatures fields
      (GeojsonSource.toFields ⟨data, SourceSpec.others ["type", "data"] rest⟩) where
  kind := SourceSpec.get?_present_self (by simp)
  data := by
    rw [GeojsonSource.toFields, List.cons_append, SourceSpec.get?_present_of_ne (by decide),
      List.cons_append, SourceSpec.get?_present_self filled, holds]
  others key value notType notData := by
    have other : key ∉ ["type", "data"] := by simp [notType, notData]
    rw [GeojsonSource.toFields, SourceSpec.mem_present, List.mem_append, SourceSpec.mem_others,
      Fields.mem_iff_of_under (kept key other)]
    simp [notType, notData]

/-- A mapping with features makes a source of them, if no name is taken. -/
theorem featureSource_collects (noId : fields.has "source_id" = false)
    (noSelf : fields.has "self" = false) :
    ∃ made, featureSource (fields.erase "type") = .ok made ∧ CollectsFeatures fields made := by
  have free : ((fields.erase "type").has "source_id" || (fields.erase "type").has "self") =
      false := by
    rw [has_or_erase_type (by decide) (by decide), noId, noSelf, Bool.or_false]
  have untyped : ((fields.erase "type").erase "data").get? "type" = none := by
    rw [Fields.get?_erase_of_ne _ (by decide), Fields.get?_erase_self]
  have kept (key : String) (other : key ∉ ["type", "data"]) :
      ((fields.erase "type").erase "data").under key = fields.under key := by
    simp only [List.mem_cons, List.not_mem_nil, or_false, not_or] at other
    rw [Fields.under_erase_of_ne _ other.2, Fields.under_erase_of_ne _ other.1]
  rw [featureSource, free, if_neg (by simp), Source.geojson_eq (Fields.get?_erase_self _ _),
    Fields.get?_erase_of_ne fields (by decide)]
  cases found : fields.filled? "data" with
  | none =>
      have absent := Fields.filled?_eq_none_iff.mp found
      rw [absent, Source.withData, GeojsonSource.ofFields_untyped untyped, Fields.get?_erase_self]
      have filled : SourceSpec.emptyCollection ≠ .null := by simp [SourceSpec.emptyCollection]
      exact ⟨_, rfl, collects_toFields filled (by rw [found]) kept⟩
  | some value =>
      obtain ⟨held, filled⟩ := Fields.filled?_eq_some_iff.mp found
      rw [held, Option.getD_some, Source.withData_of_ne filled, GeojsonSource.ofFields_untyped
        (by rw [Fields.get?_set_of_ne _ _ (by decide), untyped]), Fields.get?_set_self]
      refine ⟨_, rfl, collects_toFields filled (by rw [found]) fun key other => ?_⟩
      rw [Fields.under_set_of_ne, kept key other]
      rintro rfl
      simp at other

/-! ### What a mapping is taken for -/

theorem mappedSource_other (other : IsOther fields) (key : fields.typeValue.isKey = true) :
    mappedSource settings fields = .ok fields := by
  rw [mappedSource, describedSource, ← Fields.typeValue]
  cases kind : fields.typeValue with
  | text name =>
      have apart : name ∉ knownTypes := fun known => other.unknown name known kind
      simp only [knownTypes, List.mem_append, List.mem_singleton, not_or] at apart
      obtain ⟨⟨⟨noFeature, noVector⟩, noRaster⟩, noGeojson⟩ := apart
      simp only [if_neg noFeature, if_neg noVector, if_neg noRaster, if_neg noGeojson]
  | null =>
      obtain ⟨noUrl, noTiles⟩ := other.placeless kind
      have nowhere : ((fields.erase "type").has "url" || (fields.erase "type").has "tiles") =
          false := by
        rw [has_or_erase_type (by decide) (by decide), noUrl, noTiles, Bool.or_false]
      simp only [nowhere, Bool.false_eq_true, if_false]
  | list _ | mapping _ =>
      rw [kind] at key
      cases key
  | bool _ | integer _ | double _ => rfl

theorem mappedSource_geojson (kind : fields.typeValue = .text "geojson") :
    mappedSource settings fields = featureSource (fields.erase "type") := by
  rw [mappedSource, describedSource, ← Fields.typeValue, kind]
  rfl

/-- A type that cannot be looked up is more than the operation can take. -/
theorem mappedSource_keyless (keyless : fields.typeValue.isKey = false) :
    mappedSource settings fields = .error .badArguments := by
  rw [mappedSource, describedSource, ← Fields.typeValue]
  cases kind : fields.typeValue with
  | list _ | mapping _ => rfl
  | null | bool _ | integer _ | double _ | text _ =>
      rw [kind] at keyless
      cases keyless

/-- A mapping that can be forwarded makes a source, or it breaks what callers have to keep to. -/
theorem contractual_mappedSource (forwardable : Forwardable fields) :
    Contractual (mappedSource settings fields) := by
  by_cases features : fields.typeValue = .text "geojson"
  · obtain ⟨noId, noSelf⟩ := forwardable.free features
    obtain ⟨made, built, _⟩ := featureSource_collects noId noSelf
    rw [mappedSource_geojson features, built]
    exact .made made
  · have key := forwardable.key
    rw [mappedSource, describedSource, ← Fields.typeValue]
    split
    · rename_i name kind
      have noFeatures : name ≠ "geojson" := fun same => features (same ▸ kind)
      split_ifs
      · exact Source.contractual_geojson rfl
      · exact Source.contractual_vector rfl
      · exact Source.contractual_raster settings _ name
      · exact .made fields
    · split
      · exact Source.contractual_vector rfl
      · exact .made fields
    · rw [if_pos key]
      exact .made fields

theorem forwardable_of_contractual (built : Contractual (mappedSource settings fields)) :
    Forwardable fields := by
  constructor
  · by_contra keyless
    rw [mappedSource_keyless (Bool.eq_false_iff.mpr keyless)] at built
    cases built
  · intro features
    rw [mappedSource_geojson features, featureSource] at built
    split at built
    · cases built
    · rename_i free
      rw [has_or_erase_type (by decide) (by decide), Bool.not_eq_true] at free
      exact Bool.or_eq_false_iff.mp free

theorem contractual_ofText (settings : Settings) (raw : String) :
    Contractual (looseSource settings (.text raw)) := by
  rw [looseSource]
  split
  · exact .made _
  · exact Source.contractual_vector rfl

/-- A loose argument makes a source or breaks what callers have to keep to exactly when, being a
mapping, it can be forwarded. -/
theorem contractual_looseSource_iff :
    Contractual (looseSource settings spec) ↔
      ∀ fields : Fields, spec = .mapping fields → Forwardable fields := by
  constructor
  · rintro built fields rfl
    exact forwardable_of_contractual built
  · intro forwardable
    cases spec with
    | text raw => exact contractual_ofText settings raw
    | mapping fields => exact contractual_mappedSource (forwardable fields rfl)
    | _ => exact .breach _

/-! ### What is added -/

/-- A source that is built is registered, if an id that is too long to be shown goes with breaches
only. -/
theorem registers_of_built {built : Except Failure Fields} {made : Fields}
    (done : built = .ok made)
    (hidden : id.HoldsOversized → ∃ b, built = .error (.breach b)) :
    (adding id built).Registers id made := by
  refine registers_of_ok done fun long => ?_
  obtain ⟨b, broken⟩ := hidden long
  rw [done] at broken
  cases broken

/-- A source is registered or turned down for a breach exactly when it is built or breaks what
callers have to keep to, and is not built under an id that is too long to be shown. -/
theorem registers_or_breaches_iff {built : Except Failure Fields} :
    ((∃ made, (adding id built).Registers id made) ∨
        ∃ b, (adding id built).TurnsDown (.breach b)) ↔
      Contractual built ∧ (id.HoldsOversized → ∃ b, built = .error (.breach b)) := by
  constructor
  · rintro (⟨made, registers⟩ | ⟨b, down⟩)
    · obtain ⟨done, shown⟩ := registers_iff.mp registers
      rw [done]
      exact ⟨.made made, fun hidden => absurd hidden shown⟩
    · rcases turnsDown_iff.mp down with broken | ⟨_, _, other⟩
      · rw [broken]
        exact ⟨.breach b, fun _ => ⟨b, rfl⟩⟩
      · cases other
  · rintro ⟨made | b, hidden⟩
    · exact Or.inl ⟨made, registers_of_built rfl hidden⟩
    · exact Or.inr ⟨b, turnsDown_of_error rfl⟩

/-- The operation registers a source or turns the argument down for a breach exactly when a mapping
can be forwarded and an id that is too long to be shown goes with breaches only. -/
theorem total_iff (settings : Settings) (id spec : Value) :
    ((∃ made, ((Command.addSource id spec).script settings).Registers id made) ∨
        ∃ b, ((Command.addSource id spec).script settings).TurnsDown (.breach b)) ↔
      (∀ fields : Fields, spec = .mapping fields → Forwardable fields) ∧
        (id.HoldsOversized → ∃ b, looseSource settings spec = .error (.breach b)) := by
  rw [script_addSource, registers_or_breaches_iff, contractual_looseSource_iff]

theorem AddsSource.forwardable (adds : AddsSource settings id (.mapping fields)) :
    Forwardable fields :=
  ((total_iff settings id _).mp adds.total).1 fields rfl

end Toolkit

open Toolkit

/-- **When sources are added as they should be.** Every loose argument but a mapping that cannot be
forwarded is: one that breaks what callers have to keep to is turned down, one that makes a source
is registered with it, if the id can be shown. -/
theorem addsSource_iff (settings : Settings) (id spec : Value) :
    AddsSource settings id spec ↔
      (∀ fields : Fields, spec = .mapping fields → Forwardable fields) ∧
        (id.HoldsOversized → ∃ b, looseSource settings spec = .error (.breach b)) := by
  constructor
  · intro adds
    exact (total_iff settings id spec).mp adds.total
  · rintro ⟨forwardable, hidden⟩
    refine ⟨?_, ?_, ?_⟩
    · exact (total_iff settings id spec).mpr ⟨forwardable, hidden⟩
    · rintro fields rfl other
      have built : looseSource settings (.mapping fields) = .ok fields :=
        mappedSource_other other (forwardable fields rfl).key
      exact registers_of_built built hidden
    · rintro fields rfl features
      obtain ⟨noId, noSelf⟩ := (forwardable fields rfl).free features
      obtain ⟨made, done, collects⟩ := featureSource_collects noId noSelf
      have built : looseSource settings (.mapping fields) = .ok made :=
        (mappedSource_geojson features).trans done
      exact ⟨made, registers_of_built built hidden, collects⟩

/-- A list cannot be looked up as a type, and a mapping with features cannot have a name among its
fields that the operation has taken. -/
theorem not_addsSource :
    ¬ AddsSource .standard (.text "s") (.mapping [("type", .list [.text "vector"])]) ∧
      ¬ AddsSource .standard (.text "s")
        (.mapping [("type", .text "geojson"), ("source_id", .text "x")]) := by
  constructor
  · intro adds
    exact absurd adds.forwardable.key (by decide)
  · intro adds
    exact absurd (adds.forwardable.free rfl).1 (by decide)

end Cartography
