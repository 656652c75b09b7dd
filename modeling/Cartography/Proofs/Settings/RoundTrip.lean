import Cartography.Proofs.Expression.LexicalClass
import Cartography.Proofs.Settings.Checking
import Cartography.Proofs.Settings.CommaLists

/-!
# Settings that are written to the environment

Settings that were checked can be written to the variables they are read from. With the standard
placeholders, a tile size that is not too long to be written and entries that can stand between commas,
what is read again are the settings that were written.
-/

namespace Cartography

/-! ### Tile sizes as text -/

namespace IntegerText

/-- A run of digits is read as it stands. -/
theorem groupedDigits?_of_digits {ds : List Char} (all : Numeral.AllDigits ds) (filled : ds ≠ []) :
    groupedDigits? Text.isDigit ds = some ds := by
  induction ds with
  | nil => exact absurd rfl filled
  | cons d rest ih =>
      obtain ⟨digit, digits⟩ := List.forall_mem_cons.mp all
      cases rest with
      | nil => rw [groupedDigits?, if_pos digit]
      | cons next others =>
          have noGap : next ≠ '_' := by
            rintro rfl
            exact absurd (digits '_' (List.mem_cons_self ..)) (by decide)
          rw [groupedDigits?, if_pos digit, ih digits (by simp)]
          · rfl
          · simp
          · simpa using noGap

theorem splitSign_of_digits {ds : List Char} (all : Numeral.AllDigits ds) :
    splitSign ds = (false, ds) := by
  unfold splitSign
  split
  · exact absurd (all '-' (List.mem_cons_self ..)) (by decide)
  · exact absurd (all '+' (List.mem_cons_self ..)) (by decide)
  · rfl

theorem trimmed_of_digits {ds : List Char} (all : Numeral.AllDigits ds) :
    Text.Trimmed Text.isSpace ds := by
  have unspaced (c : Char) (member : c ∈ ds) : Text.isSpace c = false := by
    rw [← Bool.not_eq_true]
    intro space
    rw [← Bool.false_eq_true, ← Lexeme.isBlank_of_isDigit (all c member)]
    exact Text.isBlank_of_isSpace space
  exact ⟨fun c found => unspaced c (List.mem_of_mem_head? found),
    fun c found => unspaced c (List.mem_of_mem_getLast? found)⟩

/-- An integer that is not negative and not too long is read as it is written. -/
theorem lenient_toString {n : Nat} (short : Double.digitCount n ≤ digitLimit) :
    lenient (toString (n : Int)) = .ok (n : Int) := by
  obtain ⟨all, filled, written⟩ := Numeral.digitsOf_spec n
  have text : (toString (n : Int)).toList = Decimal.digitsOf n := by
    show (Nat.repr n).toList = Nat.toDigits 10 n
    rw [Nat.repr, String.toList_ofList]
  have run : (Decimal.digitsOf n).takeWhile (fun c => Text.isDigit c || c == '_') =
      Decimal.digitsOf n := by
    rw [List.takeWhile_eq_self_iff]
    exact fun c member => by rw [all c member, Bool.true_or]
  have read : ofDigits false (Decimal.digitsOf n) = .ok (n : Int) := by
    rw [ofDigits, written]
    exact if_pos short
  rw [lenient, text, Text.trim_of_trimmed (trimmed_of_digits all), splitSign_of_digits all]
  simp only [run, groupedDigits?_of_digits all filled, read, if_true]

end IntegerText

namespace Settings

variable {s : Settings}

/-! ### Variables -/

/-- The variables that settings are written to, each with its text. -/
def written (s : Settings) : Environment :=
  [("MAP_UTILS_VECTOR_SCHEMES", joined s.vectorSchemes),
    ("MAP_UTILS_GEOJSON_SUFFIXES", joined s.geojsonSuffixes),
    ("MAP_UTILS_RASTER_TILE_SIZE", toString s.rasterTileSize),
    ("MAP_UTILS_MISSING_LAYER_PATTERN", s.missingLayerPattern),
    ("MAP_UTILS_MISSING_SOURCE_PATTERN", s.missingSourcePattern),
    ("MAP_UTILS_LOG_LEVEL", s.logLevel.name)]

/-- Settings that can be written to variables: entries of lists can stand between commas, the tile
size is not too long to be written, and the placeholders, for which there is no variable, are the
standard ones. -/
structure Writable (s : Settings) : Prop where
  schemes : ∀ scheme ∈ s.vectorSchemes, IsEntry scheme
  suffixes : ∀ suffix ∈ s.geojsonSuffixes, IsEntry suffix
  placeholders : s.tilePlaceholders = standard.tilePlaceholders
  tileSize : Double.digitCount s.rasterTileSize.natAbs ≤ digitLimit

/-- Settings that were checked are read from the variables that they were written to. -/
theorem ofEnvironment_of_written {env : Environment} (valid : s.IsValid) (writable : s.Writable)
    (held : ∀ v ∈ s.written, env.get? v.1 = some v.2) : ofEnvironment env = .ok s := by
  simp only [written, List.forall_mem_cons] at held
  obtain ⟨schemes, suffixes, tileSize, layerPattern, sourcePattern, logLevel, -⟩ := held
  have read : IntegerText.lenient (tileSizeText env) = .ok s.rasterTileSize := by
    obtain ⟨n, same⟩ := Int.eq_ofNat_of_zero_le (Int.le_of_lt valid.tileSize)
    have short := writable.tileSize
    rw [same, Int.natAbs_natCast] at short
    rw [tileSizeText, tileSize, Option.getD_some, same, IntegerText.lenient_toString short]
  rw [ofEnvironment_eq_ok]
  refine ⟨⟨?_, ?_, writable.placeholders, read, ?_, ?_, ?_⟩, valid⟩
  · rw [schemes, Option.getD_some, entries_joined writable.schemes]
  · rw [suffixes, Option.getD_some, entries_joined writable.suffixes]
  · rw [layerPattern, Option.getD_some]
  · rw [sourcePattern, Option.getD_some]
  · rw [logLevel, Option.getD_some, Level.upper_name]

/-- **What is written is read again.** Where the variables hold what settings that were checked are
written to, these settings are read. Of any list whatever entries are read that can stand between
commas, and they are read again where they are joined. More blanks beside the commas and more empty
items make no difference. -/
theorem environment_round_trip :
    (∀ fields s (env : Environment), ofFields fields = .ok s → s.Writable →
      (∀ v ∈ s.written, env.get? v.1 = some v.2) → ofEnvironment env = .ok s) ∧
    ∀ list, (∀ item ∈ entries list, IsEntry item) ∧
      entries (joined (entries list)) = entries list ∧
      ∀ looser, Loosens list.toList looser.toList → entries looser = entries list := by
  constructor
  · intro fields s env made writable held
    exact ofEnvironment_of_written (isValid_of_passes (ofFields_eq_ok.mp made)) writable held
  · intro list
    have all : ∀ item ∈ entries list, IsEntry item := fun _ => isEntry_of_mem_entries
    exact ⟨all, entries_joined all, fun looser => entries_of_loosens⟩

/-- Two schemes are written with a comma between them. The same two are read where the list also has
blanks and an empty item. -/
theorem environment_round_trip_of_two_schemes :
    let s : Settings := ⟨["mapbox://", "pmtiles://"], [".geojson", ".json"],
      standard.tilePlaceholders, 256, "no such layer", "no such source", .debug⟩
    let list := "mapbox://,pmtiles://"
    let looser := "mapbox:// ,,pmtiles://,"
    ofFields s.toFields = .ok s ∧ s.Writable ∧
      (∀ v ∈ s.written, Environment.get? s.written v.1 = some v.2) ∧
      ofEnvironment s.written = .ok s ∧
      IsEntry "pmtiles://" ∧ "pmtiles://" ∈ entries list ∧
      Loosens list.toList looser.toList ∧ entries looser = ["mapbox://", "pmtiles://"] := by
  intro s list looser
  have made : ofFields s.toFields = .ok s := by decide +kernel
  have writable : s.Writable := ⟨by decide, by decide, rfl, by decide⟩
  have held : ∀ v ∈ s.written, Environment.get? s.written v.1 = some v.2 := by decide
  have read : entries list = ["mapbox://", "pmtiles://"] := by decide
  have member : "pmtiles://" ∈ entries list := by decide
  have loosens : Loosens list.toList looser.toList := by
    have first : list.toList = "mapbox://".toList ++ ',' :: "pmtiles://".toList := by decide
    have second : "mapbox://".toList ++ ' ' :: ',' :: "pmtiles://".toList =
        "mapbox:// ".toList ++ ',' :: "pmtiles://".toList := by decide
    have third : looser.toList =
        ("mapbox:// ".toList ++ ',' :: ',' :: "pmtiles://".toList) ++ [','] := by decide
    have spaced : Loosens list.toList
        ("mapbox://".toList ++ ' ' :: ',' :: "pmtiles://".toList) :=
      .blankBefore (by rw [← first]; exact .same) rfl
    rw [third]
    exact .emptyLast (.emptyItem (second ▸ spaced))
  obtain ⟨reads, lists⟩ := environment_round_trip
  obtain ⟨all, -, same⟩ := lists list
  exact ⟨made, writable, held, reads _ s _ made writable held, all _ member, member, loosens,
    (same looser loosens).trans read⟩

end Settings

end Cartography
