import Cartography.Proofs.Validation.Checks
import Cartography.Settings.Environment

/-!
# Settings that are checked

Fields give settings where each of them passes its check, and variables give settings where what
they tell is valid. In both cases what is given is told in full: every field of the settings is the
one that was given or the standard one. -/

namespace Cartography

/-! ### Names of levels -/

namespace Level

/-- The names of levels are in upper case. -/
theorem upper_name (l : Level) : Text.upper l.name = l.name := by
  have found : ofName? l.name = some l := ofName?_name l
  rw [ofName?] at found
  exact (by simpa using List.find?_some found : l.name = Text.upper l.name).symm

theorem ofName?_eq_some {s : String} {l : Level} : ofName? s = some l ↔ l.name = Text.upper s := by
  constructor
  · intro found
    simpa using List.find?_some found
  · intro named
    calc
      ofName? s = ofName? l.name := by rw [ofName?, ofName?, ← named, upper_name]
      _ = some l := ofName?_name l

end Level

namespace Settings

variable {fields : Fields} {s : Settings} {env : Environment}

/-! ### Checks of the fields -/

theorem matchers_eq_ok {key : String} {value : Value} {found : List String} :
    matchers key value = .ok found ↔ value = .texts found ∧ found ≠ [] := by
  have listed : Checked.texts key .notTuple value = .ok found ↔ value = .texts found :=
    Checked.texts_eq_ok
  rw [← listed, matchers]
  split
  · rename_i empty
    constructor
    · exact nofun
    · rintro ⟨passed, filled⟩
      rw [empty] at passed
      exact absurd (Except.ok.inj passed).symm filled
  · rename_i filled
    constructor
    · intro passed
      refine ⟨passed, ?_⟩
      rintro rfl
      exact filled passed
    · exact fun given => given.1

theorem pattern_eq_ok {key : String} {value : Value} {found : String} :
    pattern key value = .ok found ↔ value = .text found ∧ found ≠ "" := by
  have written : Checked.text key value = .ok found ↔ value = .text found := Checked.text_eq_ok
  rw [← written, pattern]
  split
  · rename_i empty
    constructor
    · exact nofun
    · rintro ⟨passed, filled⟩
      rw [empty] at passed
      exact absurd (Except.ok.inj passed).symm filled
  · rename_i filled
    constructor
    · intro passed
      refine ⟨passed, ?_⟩
      rintro rfl
      exact filled passed
    · exact fun given => given.1

/-- The settings' own list has the levels under their names. -/
theorem levelNames_eq : levelNames = Level.all.map fun l => (l.name, l) := rfl

/-- **Settings and journals agree on the names of levels.** A text is taken for a level in settings
if and only if a journal reads it as the name of that level. -/
theorem lookup_levelNames (s : String) :
    levelNames.lookup (Text.upper s) = Level.ofName? s := by
  rw [levelNames_eq, Level.ofName?]
  induction Level.all with
  | nil => rfl
  | cons l rest ih =>
      rw [List.map_cons, List.lookup_cons, List.find?_cons, ih, BEq.comm]

theorem level_eq_ok {key : String} {value : Value} {l : Level} :
    level key value = .ok l ↔ ∃ s, value = .text s ∧ l.name = Text.upper s := by
  cases value with
  | text s =>
      have named : level key (.text s) = .ok l ↔ Level.ofName? s = some l := by
        rw [level, Checked.text]
        dsimp only
        rw [lookup_levelNames]
        cases found : Level.ofName? s <;> simp [Checked.fault]
      rw [named, Level.ofName?_eq_some]
      simp
  | _ => simp [level, Checked.text, Checked.fault]

/-- Fields pass the checks with the values that some settings have. A field that is absent has the
standard value. -/
structure Passes (fields : Fields) (s : Settings) : Prop where
  schemes : Checked.defaulting standard.vectorSchemes (matchers "vector_url_schemes")
    (fields.get? "vector_url_schemes") = .ok s.vectorSchemes
  suffixes : Checked.defaulting standard.geojsonSuffixes (matchers "geojson_suffixes")
    (fields.get? "geojson_suffixes") = .ok s.geojsonSuffixes
  placeholders : Checked.defaulting standard.tilePlaceholders (matchers "tile_placeholders")
    (fields.get? "tile_placeholders") = .ok s.tilePlaceholders
  tileSize : Checked.defaulting standard.rasterTileSize (Checked.positive "raster_tile_size")
    (fields.get? "raster_tile_size") = .ok s.rasterTileSize
  layerPattern : Checked.defaulting standard.missingLayerPattern (pattern "missing_layer_pattern")
    (fields.get? "missing_layer_pattern") = .ok s.missingLayerPattern
  sourcePattern : Checked.defaulting standard.missingSourcePattern
    (pattern "missing_source_pattern") (fields.get? "missing_source_pattern") =
      .ok s.missingSourcePattern
  logLevel : Checked.defaulting standard.logLevel (level "log_level") (fields.get? "log_level") =
    .ok s.logLevel

theorem ofFields_eq_ok : ofFields fields = .ok s ↔ Passes fields s := by
  constructor
  · intro made
    rw [ofFields] at made
    split at made
    · rename_i schemes suffixes placeholders tileSize layerPattern sourcePattern logLevel
      rw [← Except.ok.inj made]
      exact ⟨schemes, suffixes, placeholders, tileSize, layerPattern, sourcePattern, logLevel⟩
    · cases made
  · intro passes
    simp only [ofFields, passes.schemes, passes.suffixes, passes.placeholders, passes.tileSize,
      passes.layerPattern, passes.sourcePattern, passes.logLevel]

/-- What is established of settings by their checks. -/
structure IsValid (s : Settings) : Prop where
  schemes : s.vectorSchemes ≠ []
  suffixes : s.geojsonSuffixes ≠ []
  placeholders : s.tilePlaceholders ≠ []
  tileSize : 0 < s.rasterTileSize
  layerPattern : s.missingLayerPattern ≠ ""
  sourcePattern : s.missingSourcePattern ≠ ""

/-- What holds of a default and of all that a check gives holds of the field. -/
theorem of_defaulting {α : Type} {P : α → Prop} {default a : α} {check : Value → Checked α}
    {found : Option Value} (passed : Checked.defaulting default check found = .ok a)
    (ofDefault : P default) (ofCheck : ∀ value b, check value = .ok b → P b) : P a := by
  cases found with
  | none => exact Except.ok.inj passed ▸ ofDefault
  | some value => exact ofCheck value a passed

theorem isValid_of_passes (passes : Passes fields s) : s.IsValid := by
  have lists (key : String) (value : Value) (found : List String)
      (passed : matchers key value = .ok found) : found ≠ [] := (matchers_eq_ok.mp passed).2
  have patterns (key : String) (value : Value) (found : String)
      (passed : pattern key value = .ok found) : found ≠ "" := (pattern_eq_ok.mp passed).2
  refine ⟨?_, ?_, ?_, ?_, ?_, ?_⟩
  · exact of_defaulting passes.schemes (P := (· ≠ [])) (by decide) (lists _)
  · exact of_defaulting passes.suffixes (P := (· ≠ [])) (by decide) (lists _)
  · exact of_defaulting passes.placeholders (P := (· ≠ [])) (by decide) (lists _)
  · exact of_defaulting passes.tileSize (P := (0 < ·)) (by decide) fun _ _ passed =>
      (Checked.positive_eq_ok.mp passed).2
  · exact of_defaulting passes.layerPattern (P := (· ≠ "")) (by decide) (patterns _)
  · exact of_defaulting passes.sourcePattern (P := (· ≠ "")) (by decide) (patterns _)

/-! ### What variables tell -/

/-- Settings are those that an environment tells: each is given by the text of its variable, or by
the standard one where the variable is not set. There is no variable for the placeholders. -/
structure Told (env : Environment) (s : Settings) : Prop where
  schemes : s.vectorSchemes =
    entries ((env.get? "MAP_UTILS_VECTOR_SCHEMES").getD (joined standard.vectorSchemes))
  suffixes : s.geojsonSuffixes =
    entries ((env.get? "MAP_UTILS_GEOJSON_SUFFIXES").getD (joined standard.geojsonSuffixes))
  placeholders : s.tilePlaceholders = standard.tilePlaceholders
  tileSize : IntegerText.lenient (tileSizeText env) = .ok s.rasterTileSize
  layerPattern : s.missingLayerPattern =
    (env.get? "MAP_UTILS_MISSING_LAYER_PATTERN").getD standard.missingLayerPattern
  sourcePattern : s.missingSourcePattern =
    (env.get? "MAP_UTILS_MISSING_SOURCE_PATTERN").getD standard.missingSourcePattern
  logLevel : s.logLevel.name =
    Text.upper ((env.get? "MAP_UTILS_LOG_LEVEL").getD standard.logLevel.name)

theorem texts_inj {items others : List String} :
    Value.texts items = Value.texts others ↔ items = others := by
  constructor
  · intro same
    exact (List.map_inj_right fun _ _ => Value.text.inj).mp (Value.list.inj same)
  · rintro rfl
    rfl

/-- The fields that variables give pass the checks if and only if what they tell is valid. -/
theorem passes_environmentFields {size : Int}
    (read : IntegerText.lenient (tileSizeText env) = .ok size) :
    Passes (environmentFields env size) s ↔ Told env s ∧ s.IsValid := by
  constructor
  · intro passes
    refine ⟨⟨?_, ?_, ?_, ?_, ?_, ?_, ?_⟩, isValid_of_passes passes⟩
    · exact (texts_inj.mp (matchers_eq_ok.mp passes.schemes).1).symm
    · exact (texts_inj.mp (matchers_eq_ok.mp passes.suffixes).1).symm
    · exact (Except.ok.inj passes.placeholders).symm
    · have checked : Checked.positive "raster_tile_size" (.integer size) = .ok s.rasterTileSize :=
        passes.tileSize
      have whole : Checked.integerOf (.integer size) = .ok s.rasterTileSize :=
        (Checked.positive_eq_ok.mp checked).1
      rw [read, Except.ok.inj whole]
    · exact (Value.text.inj (pattern_eq_ok.mp passes.layerPattern).1).symm
    · exact (Value.text.inj (pattern_eq_ok.mp passes.sourcePattern).1).symm
    · have checked : level "log_level" (.text ((env.get? "MAP_UTILS_LOG_LEVEL").getD
          standard.logLevel.name)) = .ok s.logLevel := passes.logLevel
      obtain ⟨text, given, named⟩ := level_eq_ok.mp checked
      rw [named, Value.text.inj given]
  · rintro ⟨told, valid⟩
    have same : size = s.rasterTileSize := Except.ok.inj (read.symm.trans told.tileSize)
    refine ⟨?_, ?_, ?_, ?_, ?_, ?_, ?_⟩
    · exact matchers_eq_ok.mpr ⟨congrArg Value.texts told.schemes.symm, valid.schemes⟩
    · exact matchers_eq_ok.mpr ⟨congrArg Value.texts told.suffixes.symm, valid.suffixes⟩
    · exact congrArg Except.ok told.placeholders.symm
    · have whole : Checked.integerOf (.integer size) = .ok s.rasterTileSize :=
        congrArg Except.ok same
      exact Checked.positive_eq_ok.mpr ⟨whole, valid.tileSize⟩
    · exact pattern_eq_ok.mpr ⟨congrArg Value.text told.layerPattern.symm, valid.layerPattern⟩
    · exact pattern_eq_ok.mpr ⟨congrArg Value.text told.sourcePattern.symm, valid.sourcePattern⟩
    · exact level_eq_ok.mpr ⟨_, rfl, told.logLevel⟩

/-- Settings are read from an environment if and only if it tells them and they are valid. -/
theorem ofEnvironment_eq_ok : ofEnvironment env = .ok s ↔ Told env s ∧ s.IsValid := by
  rw [ofEnvironment]
  split
  · rename_i malformed
    exact ⟨nofun, fun ⟨told, _⟩ => nomatch malformed.symm.trans told.tileSize⟩
  · rename_i oversized
    exact ⟨nofun, fun ⟨told, _⟩ => nomatch oversized.symm.trans told.tileSize⟩
  · rename_i size read
    rw [← passes_environmentFields read, ← ofFields_eq_ok]
    cases ofFields (environmentFields env size) <;> simp

end Settings

end Cartography
