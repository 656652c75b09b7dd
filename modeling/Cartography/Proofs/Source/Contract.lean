import Cartography.Proofs.Outcome
import Cartography.Source.Loose

/-!
# What callers have to keep to

Building a source ends with the source, or with a breach of what callers have to keep to. Nothing
else comes of it where the options leave the names of other arguments alone.
-/

namespace Cartography

/-- A step succeeds, or it breaks what callers have to keep to. -/
inductive Contractual {α : Type} : Except Failure α → Prop
  | made (a : α) : Contractual (.ok a)
  | breach (b : Breach) : Contractual (.error (.breach b))

theorem Contractual.bind {α β : Type} {x : Except Failure α} {f : α → Except Failure β}
    (first : Contractual x) (later : ∀ a, Contractual (f a)) : Contractual (x.bind f) := by
  cases first with
  | made a => exact later a
  | breach b => exact .breach b

theorem GeojsonSource.ofFields_untyped {fields : Fields} (untyped : fields.get? "type" = none) :
    GeojsonSource.ofFields fields =
      .ok ⟨(fields.get? "data").getD SourceSpec.emptyCollection,
        SourceSpec.others ["type", "data"] fields⟩ := by
  rw [GeojsonSource.ofFields, SourceSpec.typeField, untyped]
  rfl

namespace Source

variable {settings : Settings} {spec : Value} {options : Fields}

theorem contractual_orBreach {α : Type} (kind : String) (checked : Except Report α) :
    Contractual (orBreach kind checked) := by
  cases checked with
  | ok source => exact .made source
  | error report => exact .breach _

theorem contractual_checkedOptions (free : reserved.any options.has = false) :
    Contractual (checkedOptions options) := by
  rw [checkedOptions, if_neg (Bool.eq_false_iff.mp free)]
  exact .made options

theorem contractual_tiledFields (settings : Settings) (spec : Value) :
    Contractual (tiledFields settings spec) := by
  cases spec with
  | text raw =>
      rw [tiledFields]
      split
      · exact .made _
      · exact .made _
  | mapping fields => exact .made _
  | _ => exact .breach _

theorem contractual_vector (free : reserved.any options.has = false) :
    Contractual (vector settings spec options) :=
  (contractual_checkedOptions free).bind fun _ =>
    (contractual_tiledFields settings spec).bind fun _ =>
      (contractual_orBreach "vector" _).bind fun _ => .made _

/-- Where the kind of a raster source is a text, a report on it can be put into words. -/
theorem contractual_raster (settings : Settings) (spec : Value) (kind : String) :
    Contractual (raster settings spec (some (.text kind)) []) := by
  refine (contractual_tiledFields settings spec).bind fun fields => ?_
  dsimp only
  generalize RasterSource.ofFields _ = checked
  cases checked with
  | ok source => exact .made _
  | error report => exact .breach (.invalidSource kind report)

/-! ### Features -/

/-- Options with features among them, unless these are null. -/
def withData (data : Value) (options : Fields) : Fields :=
  match data with
  | .null => options
  | data => options.set "data" data

theorem withData_of_ne {data : Value} (filled : data ≠ .null) (options : Fields) :
    withData data options = options.set "data" data := by
  rw [withData]
  exact filled

theorem geojson_eq {data : Value} (dataless : options.get? "data" = none) :
    geojson (some data) options =
      (orBreach "geojson" (GeojsonSource.ofFields (withData data options))).bind
        fun source => .ok source.toFields := by
  simp only [geojson, dataless]
  rfl

theorem contractual_geojson {data : Value} (dataless : options.get? "data" = none) :
    Contractual (geojson (some data) options) := by
  rw [geojson_eq dataless]
  exact (contractual_orBreach "geojson" _).bind fun _ => .made _

end Source

end Cartography
