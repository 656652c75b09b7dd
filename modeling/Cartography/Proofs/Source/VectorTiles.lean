import Cartography.Proofs.Source.Contract
import Cartography.Proofs.Source.NormalForm
import Cartography.Proofs.Source.Rules

/-!
# What makes a source of vector tiles

A source of vector tiles is made of what its argument says and of the options that are laid over it.
It is made whenever these fields describe one: each field that the check knows is of its kind, and one
of them says where the tiles are. The host is given the same fields under the same keys, with the type
and without what is null.

## Implementation notes

A field that may be missing is told by its value, which is null where the field is absent. So a check of
such a field says what that value is, and the fields before and after the check are compared by it.
-/

namespace Cartography

namespace Fields

/-- Fields say where tiles are: by a URL or by at least one template. -/
def PlacesTiles (fields : Fields) : Prop :=
  (∃ url, fields.get? "url" = some (.text url)) ∨
    ∃ first rest, fields.get? "tiles" = some (.texts (first :: rest))

/-- Fields describe a source of vector tiles: those that are known are of their kinds, and one of them
says where the tiles are. A type is not null, while the other two may be. -/
structure DescribesVector (fields : Fields) : Prop where
  url : ∀ value, fields.get? "url" = some value → value = .null ∨ ∃ url, value = .text url
  tiles : ∀ value, fields.get? "tiles" = some value →
    value = .null ∨ ∃ templates, value = .texts templates
  kind : ∀ value, fields.get? "type" = some value → value = .text "vector"
  placed : fields.PlacesTiles

/-- What is handed on of the fields of a source of vector tiles: its type, and under every other key
the value that is there, unless it is null. -/
structure HandsVector (fields made : Fields) : Prop where
  distinct : made.Distinct
  kind : made.get? "type" = some (.text "vector")
  others : ∀ key, key ≠ "type" → made.get? key = fields.filled? key

end Fields

namespace Checked

/-- Where a check takes exactly the values that stand for something, a field that may be missing
passes it with the value that stands for what is found, or with null. -/
theorem optional_eq_ok_iff {α : Type} {check : Value → Checked α} {toValue : α → Value}
    (reads : ∀ value a, check value = .ok a ↔ value = toValue a)
    (filled : ∀ a, toValue a ≠ .null) {found : Option Value} {result : Option α} :
    optional check found = .ok result ↔ found.getD .null = SourceSpec.orNull toValue result := by
  rw [optional_eq_ok]
  constructor
  · rintro (⟨null, rfl⟩ | ⟨value, a, rfl, -, passed, rfl⟩)
    · exact null
    · exact (reads value a).mp passed
  · intro told
    cases result with
    | none => exact Or.inl ⟨told, rfl⟩
    | some a =>
        have there : found = some (toValue a) := (Fields.getD_eq_iff (filled a)).mp told
        exact Or.inr ⟨toValue a, a, there, filled a, (reads _ a).mpr rfl, rfl⟩

end Checked

namespace SourceSpec

variable {fields : Fields} {key : String}

theorem optionalText_eq_ok {url : Option String} :
    optionalText fields key = .ok url ↔ (fields.get? key).getD .null = orNull .text url :=
  Checked.optional_eq_ok_iff (fun _ _ => Checked.text_eq_ok) (by simp)

theorem optionalTexts_eq_ok {tiles : Option (List String)} :
    optionalTexts fields key = .ok tiles ↔ (fields.get? key).getD .null = orNull .texts tiles :=
  Checked.optional_eq_ok_iff (fun _ _ => Checked.texts_eq_ok) (by simp [Value.texts])

/-- Of a single choice a type that is given has to be that one. -/
theorem typeField_single {choice : String} :
    (∃ kind, typeField [choice] fields = .ok kind) ↔
      ∀ value, fields.get? "type" = some value → value = .text choice := by
  rw [typeField]
  cases fields.get? "type" with
  | none => simp [Checked.defaulting]
  | some value =>
      cases value with
      | text s =>
          by_cases same : s = choice <;>
            simp [Checked.defaulting, Checked.oneOf, Checked.fault, same]
      | _ => simp [Checked.defaulting, Checked.oneOf, Checked.fault]

theorem hasTiles_iff {url : Option String} {tiles : Option (List String)} :
    hasTiles url tiles = true ↔
      (∃ s, url = some s) ∨ ∃ first rest, tiles = some (first :: rest) := by
  rw [hasTiles, Bool.or_eq_true, Option.isSome_iff_exists]
  refine or_congr_right ?_
  rcases tiles with _ | _ | ⟨first, rest⟩ <;> simp

/-- A field that may be missing is null or stands for something exactly if its value is that of an
optional one. -/
theorem exists_orNull_iff {α : Type} {toValue : α → Value} {found : Option Value} :
    (∃ result, found.getD .null = orNull toValue result) ↔
      ∀ value, found = some value → value = .null ∨ ∃ a, value = toValue a := by
  constructor
  · rintro ⟨_ | a, told⟩ value rfl
    · exact Or.inl told
    · exact Or.inr ⟨a, told⟩
  · intro kinds
    cases found with
    | none => exact ⟨none, rfl⟩
    | some value =>
        rcases kinds value rfl with rfl | ⟨a, rfl⟩
        · exact ⟨none, rfl⟩
        · exact ⟨some a, rfl⟩

/-- What a field that may be missing stands for is found there. -/
theorem eq_some_iff_of_orNull {α : Type} {toValue : α → Value}
    (injective : ∀ a b, toValue a = toValue b → a = b) (filled : ∀ a, toValue a ≠ .null)
    {found : Option Value} {result : Option α}
    (told : found.getD .null = orNull toValue result) (a : α) :
    result = some a ↔ found = some (toValue a) := by
  constructor
  · rintro rfl
    exact (Fields.getD_eq_iff (filled a)).mp told
  · rintro rfl
    cases result with
    | none => exact absurd told (filled a)
    | some b => exact congrArg some (injective a b told).symm

theorem distinct_present (distinct : fields.Distinct) : Fields.Distinct (present fields) :=
  distinct.filter _

/-- Where no key is there twice, the fields that are not null are found under their keys. -/
theorem get?_present (distinct : fields.Distinct) :
    (present fields).get? key = fields.filled? key := by
  ext value
  rw [Fields.get?_eq_some_iff (distinct_present distinct), mem_present, Fields.filled?_eq_some_iff,
    Fields.get?_eq_some_iff distinct]

section Others

variable {own : Fields} {known : List String}

/-- Fields under known keys and others besides have distinct keys. -/
theorem distinct_append_others (keys : own.map (·.1) = known) (apart : known.Nodup)
    (distinct : fields.Distinct) : Fields.Distinct (own ++ others known fields) := by
  rw [Fields.Distinct, List.map_append, List.nodup_append, keys]
  refine ⟨apart, distinct.filter _, ?_⟩
  rintro name listed other member rfl
  obtain ⟨entry, held, named⟩ := List.mem_map.mp member
  exact ne_of_mem_others listed entry held named

/-- Under a key that is not known there is what the others have. -/
theorem get?_append_others (keys : own.map (·.1) = known) (unknown : key ∉ known) :
    Fields.get? (own ++ others known fields) key = fields.get? key := by
  have absent : own.get? key = none := by
    rw [Fields.get?_eq_none_iff]
    rintro entry member rfl
    exact unknown (keys ▸ List.mem_map_of_mem member)
  have kept := Fields.get?_keeping (fun name => !known.contains name) fields key
  rw [if_pos (by simpa using unknown)] at kept
  rw [Fields.get?_append, absent, Option.none_or]
  exact kept

end Others

end SourceSpec

open SourceSpec

namespace VectorSource

variable {fields : Fields} {source : VectorSource}

/-- A URL and templates that were checked say where the tiles are if the fields do. -/
theorem hasTiles_iff_placesTiles {url : Option String} {tiles : Option (List String)}
    (hasUrl : (fields.get? "url").getD .null = orNull .text url)
    (hasTemplates : (fields.get? "tiles").getD .null = orNull .texts tiles) :
    hasTiles url tiles = true ↔ fields.PlacesTiles := by
  have urls (s : String) : url = some s ↔ fields.get? "url" = some (.text s) :=
    eq_some_iff_of_orNull (by simp) (by simp) hasUrl s
  have templates (items : List String) :
      tiles = some items ↔ fields.get? "tiles" = some (.texts items) := by
    refine eq_some_iff_of_orNull (fun items others same => ?_) (by simp [Value.texts])
      hasTemplates items
    exact List.map_injective_iff.mpr (fun _ _ => Value.text.inj) (Value.list.inj same)
  simp only [hasTiles_iff, Fields.PlacesTiles, urls, templates]

/-- Fields make a source of vector tiles exactly if they describe one. -/
theorem exists_ofFields_iff :
    (∃ source, ofFields fields = .ok source) ↔ fields.DescribesVector := by
  simp only [ofFields_eq_ok, optionalText_eq_ok, optionalTexts_eq_ok, typeField_single]
  constructor
  · rintro ⟨source, hasUrl, hasTemplates, hasKind, placed, -⟩
    exact ⟨exists_orNull_iff.mp ⟨_, hasUrl⟩, exists_orNull_iff.mp ⟨_, hasTemplates⟩, hasKind,
      (hasTiles_iff_placesTiles hasUrl hasTemplates).mp placed⟩
  · intro describes
    obtain ⟨url, hasUrl⟩ := exists_orNull_iff.mpr describes.url
    obtain ⟨tiles, hasTemplates⟩ := exists_orNull_iff.mpr describes.tiles
    exact ⟨⟨url, tiles, others ["url", "tiles", "type"] fields⟩, hasUrl, hasTemplates,
      describes.kind, (hasTiles_iff_placesTiles hasUrl hasTemplates).mpr describes.placed, rfl⟩

/-- Of a source of vector tiles the host is given the fields that it was made of. -/
theorem handsVector_toFields (distinct : fields.Distinct) (made : ofFields fields = .ok source) :
    fields.HandsVector source.toFields := by
  obtain ⟨url, tiles, extra⟩ := source
  obtain ⟨hasUrl, hasTemplates, -, -, rfl⟩ := ofFields_eq_ok.mp made
  rw [optionalText_eq_ok] at hasUrl
  rw [optionalTexts_eq_ok] at hasTemplates
  have given : Fields.Distinct ([("url", orNull .text url), ("tiles", orNull .texts tiles),
      ("type", .text "vector")] ++ others ["url", "tiles", "type"] fields) :=
    distinct_append_others rfl (by decide) distinct
  refine ⟨distinct_present given, get?_present given, fun key ne => (get?_present given).trans ?_⟩
  -- a field is known to the check, or it is handed on as it was given
  by_cases isUrl : key = "url"
  · subst isUrl
    exact Fields.filled?_congr hasUrl.symm
  by_cases isTiles : key = "tiles"
  · subst isTiles
    exact Fields.filled?_congr hasTemplates.symm
  have unknown : key ∉ ["url", "tiles", "type"] := by simp [isUrl, isTiles, ne]
  exact Fields.filled?_congr (congrArg (Option.getD · .null) (get?_append_others rfl unknown))

/-- What a source of vector tiles is handed on as says where its tiles are if the source does. -/
theorem placesTiles_toFields (placed : hasTiles source.url source.tiles = true) :
    source.toFields.PlacesTiles := by
  obtain ⟨url, tiles, extra⟩ := source
  rcases hasTiles_iff.mp placed with ⟨s, rfl⟩ | ⟨first, rest, rfl⟩
  · exact Or.inl ⟨s, get?_present_self (by simp [orNull])⟩
  · refine Or.inr ⟨first, rest, ?_⟩
    exact (get?_present_of_ne (by decide)).trans
      (get?_present_self (by simp [orNull, Value.texts]))

end VectorSource

namespace Source

variable {settings : Settings} {spec : Value} {bare options made : Fields}

/-- The fields that a tiled source's argument gives by itself: a template of tile addresses, a URL,
or what a mapping has besides the type. -/
inductive Gives (settings : Settings) : Value → Fields → Prop
  | template {raw : String} (holds : settings.HoldsPlaceholders raw) :
      Gives settings (.text raw) [("tiles", .texts [raw])]
  | url {raw : String} (lacks : ¬ settings.HoldsPlaceholders raw) :
      Gives settings (.text raw) [("url", .text raw)]
  | mapping (fields : Fields) : Gives settings (.mapping fields) (fields.erase "type")

theorem tiledFields_eq_ok : tiledFields settings spec = .ok bare ↔ Gives settings spec bare := by
  constructor
  · intro given
    cases spec with
    | text raw =>
        rw [tiledFields] at given
        split at given
        · rename_i template
          obtain rfl := Except.ok.inj given
          exact .template (Settings.isTileTemplate_iff.mp template)
        · rename_i noTemplate
          obtain rfl := Except.ok.inj given
          exact .url (mt Settings.isTileTemplate_iff.mpr noTemplate)
    | mapping fields =>
        obtain rfl := Except.ok.inj given
        exact .mapping fields
    | _ => cases given
  · rintro (⟨holds⟩ | ⟨lacks⟩ | ⟨fields⟩)
    · rw [tiledFields, if_pos (Settings.isTileTemplate_iff.mpr holds)]
    · rw [tiledFields, if_neg (mt Settings.isTileTemplate_iff.mp lacks)]
    · rfl

theorem Gives.unique {others : Fields} (gives : Gives settings spec bare)
    (again : Gives settings spec others) : bare = others := by
  rw [← tiledFields_eq_ok] at gives again
  exact Except.ok.inj (gives.symm.trans again)

/-- A mapping without a key that is there twice gives no key twice. -/
theorem Gives.distinct (gives : Gives settings spec bare)
    (mapped : ∀ fields, spec = .mapping fields → Fields.Distinct fields) : bare.Distinct := by
  cases gives with
  | template holds => exact List.nodup_singleton _
  | url lacks => exact List.nodup_singleton _
  | mapping fields => exact (mapped fields rfl).filter _

/-- A vector source is what is checked of the fields that its argument gives, with the options laid
over them. -/
theorem vector_eq_ok_iff (free : reserved.any options.has = false) :
    vector settings spec options = .ok made ↔
      ∃ bare, Gives settings spec bare ∧ ∃ source,
        VectorSource.ofFields (bare.merge options) = .ok source ∧ made = source.toFields := by
  have taken : checkedOptions options = .ok options := if_neg (by rw [free]; exact nofun)
  simp only [vector, taken, bind, ok_bind, bind_eq_ok, orBreach_eq_ok, tiledFields_eq_ok, pure,
    Except.pure, Except.ok.injEq, eq_comm (a := made)]

/-- Options that leave the names of other arguments alone make a vector source exactly if they
complete the fields of its argument to those of one. -/
theorem exists_vector_iff (free : reserved.any options.has = false) :
    (∃ made, vector settings spec options = .ok made) ↔
      ∃ bare, Gives settings spec bare ∧ (bare.merge options).DescribesVector := by
  simp only [vector_eq_ok_iff free, ← VectorSource.exists_ofFields_iff]
  constructor
  · rintro ⟨made, bare, gives, source, checked, -⟩
    exact ⟨bare, gives, source, checked⟩
  · rintro ⟨bare, gives, source, checked⟩
    exact ⟨source.toFields, bare, gives, source, checked, rfl⟩

/-- A vector source is handed on with the fields that it was made of. -/
theorem handsVector_of_vector (free : reserved.any options.has = false)
    (mapped : ∀ fields, spec = .mapping fields → Fields.Distinct fields)
    (gives : Gives settings spec bare) (done : vector settings spec options = .ok made) :
    (bare.merge options).HandsVector made := by
  obtain ⟨same, again, source, checked, rfl⟩ := (vector_eq_ok_iff free).mp done
  obtain rfl := gives.unique again
  exact VectorSource.handsVector_toFields ((gives.distinct mapped).merge options) checked

end Source

end Cartography
