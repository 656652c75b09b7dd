import Cartography.Proofs.Journal.Loggers
import Cartography.Proofs.Settings.Checking
import Cartography.Proofs.Settings.CommaLists
import Cartography.Proofs.Toolkit.OwnSettings

/-!
# Opening a toolkit

Settings that are accepted, whether they come from fields or from an environment, are good enough to
open a toolkit with. What is checked of a level when settings are made and what is looked up of it
when a toolkit is opened agree.

## Implementation notes

Settings hold a level, which is looked up again by its name when a toolkit is opened. `IsValid` is
what the checks of the other fields establish, and `Told` what an environment has to do with the
settings that are read from it.
-/

namespace Cartography

/-! ### Entries that are read -/

/-- An entry of a list has something in it besides blanks. -/
theorem Settings.IsEntry.exists_unblank {item : String} (entry : Settings.IsEntry item) :
    ∃ c ∈ item.toList, Text.isBlank c = false := by
  have filled : item.toList ≠ [] := by simpa using entry.filled
  obtain ⟨c, rest, split⟩ := List.exists_cons_of_ne_nil filled
  have first : c ∈ item.toList.head? := by rw [split]; rfl
  exact ⟨c, List.mem_of_mem_head? first, entry.trimmed.first c first⟩

/-! ### Opening -/

namespace Toolkit

variable {σ : Type} (own : Settings)

/-- The logger of a toolkit that is opened, and the logger's handler, are at the level of the
settings. -/
theorem logger_opened (journal : Journal) : ∃ logger,
    (journal.opened own).find? Stage.logger = some logger ∧ logger.level = own.logLevel ∧
      logger.handlers = [⟨own.logLevel.number⟩] := by
  have found := journal.find?_setUp_self .service "MapUtils" own.logLevel 1000
  have level (there : Option Logger) :
      (Logger.orCreated there .service "MapUtils" own.logLevel 1000).level = own.logLevel := by
    cases there <;> rfl
  refine ⟨_, found, level _, ?_⟩
  rw [Logger.single, level]

end Toolkit

namespace Settings

/-- What is sure of settings that are accepted: their fields are valid, and their level has one of
the five names, in upper case. -/
structure IsSound (s : Settings) : Prop where
  valid : s.IsValid
  named : s.logLevel.name ∈ ["DEBUG", "INFO", "WARNING", "ERROR", "CRITICAL"]
  upper : Text.upper s.logLevel.name = s.logLevel.name

/-- A toolkit can be opened with settings, on any stage and amid any shared settings: the name of
their level is read as that level, and it is the level of the toolkit's logger and of the logger's
one handler. -/
structure Opens (s : Settings) : Prop where
  level : (LevelChoice.named s.logLevel.name).resolve = .ok s.logLevel
  opened {σ : Type} (stage : Stage σ) (shared : SharedSettings) : ∃ after logger,
    (Toolkit.openOn (some s) stage).runIn shared = (.ok (s, after), shared) ∧
      after.journal.find? Stage.logger = some logger ∧ logger.level = s.logLevel ∧
      logger.handlers = [⟨s.logLevel.number⟩]

/-- Nothing is sure of a level's name but what is sure of every level. -/
theorem IsValid.isSound {s : Settings} (valid : s.IsValid) : s.IsSound where
  valid := valid
  named := by cases s.logLevel <;> decide
  upper := Level.upper_name s.logLevel

theorem opens (s : Settings) : s.Opens where
  level := by rw [LevelChoice.resolve, Level.ofName?_name]
  opened stage shared := by
    obtain ⟨logger, found, level, handlers⟩ := Toolkit.logger_opened s stage.journal
    exact ⟨_, logger, Toolkit.runIn_openOn .., found, level, handlers⟩

/-- A toolkit that is given no settings is opened as it is with the shared ones, and where these
cannot be had it fails as the reading of the environment does. -/
theorem opens_shared {σ : Type} (stage : Stage σ) (shared : SharedSettings) :
    ((Toolkit.openOn none stage).runIn shared).1 =
      match (shared.choose none).1 with
      | .ok s => ((Toolkit.openOn (some s) stage).runIn shared).1
      | .error m => .error (.misconfigured m) := by
  rw [Toolkit.runIn_openOn]
  rcases shared.choose none with ⟨m | s, after⟩
  · rfl
  · dsimp only
    rw [Toolkit.runIn_openOn]
    rfl

/-- **Settings that are accepted open a toolkit.** Reading an environment fails with a
misconfiguration, and then no settings that it tells are valid, or it gives the settings that the
environment tells, which are sound, and whose schemes and suffixes all have something in them
besides blanks. Fields that pass give sound settings, with the level that is given in whatever case.
Whichever way settings come to be accepted, a toolkit can be opened with them; and one that is given
no settings is opened as with the shared ones, or fails with their misconfiguration. -/
theorem accepted_settings_open :
    (∀ env : Environment,
      (∃ m, ofEnvironment env = .error m ∧ (Failure.misconfigured m).kind = "ConfigurationError" ∧
        ∀ s, Told env s → ¬ s.IsValid) ∨
      ∃ s, ofEnvironment env = .ok s ∧ Told env s ∧ s.IsSound ∧ s.Opens ∧
        ∀ entry ∈ s.vectorSchemes ++ s.geojsonSuffixes,
          ∃ c ∈ entry.toList, Text.isBlank c = false) ∧
    (∀ fields s, ofFields fields = .ok s → s.IsSound ∧ s.Opens ∧
      ∀ given, fields.get? "log_level" = some given →
        ∃ text, given = .text text ∧ s.logLevel.name = Text.upper text) ∧
    ∀ {σ : Type} (stage : Stage σ) (shared : SharedSettings),
      ((Toolkit.openOn none stage).runIn shared).1 =
        match (shared.choose none).1 with
        | .ok s => ((Toolkit.openOn (some s) stage).runIn shared).1
        | .error m => .error (.misconfigured m) := by
  refine ⟨fun env => ?_, fun fields s made => ?_, opens_shared⟩
  · cases read : ofEnvironment env with
    | error m =>
        refine Or.inl ⟨m, rfl, rfl, fun s told valid => ?_⟩
        exact nomatch read.symm.trans (ofEnvironment_eq_ok.mpr ⟨told, valid⟩)
    | ok s =>
        obtain ⟨told, valid⟩ := ofEnvironment_eq_ok.mp read
        refine Or.inr ⟨s, rfl, told, valid.isSound, s.opens, fun entry member => ?_⟩
        rw [told.schemes, told.suffixes, List.mem_append] at member
        apply IsEntry.exists_unblank
        exact member.elim isEntry_of_mem_entries isEntry_of_mem_entries
  · have passes := ofFields_eq_ok.mp made
    refine ⟨(isValid_of_passes passes).isSound, s.opens, fun given there => ?_⟩
    have checked := passes.logLevel
    rw [there] at checked
    exact level_eq_ok.mp checked

/-- A dotless i is no hindrance to a level, nor a sign and a gap to a tile size, and a toolkit is
opened with what is read; of a list with commas only it is not. -/
theorem accepted_settings_open_of_dotless :
    let env : Environment :=
      [("MAP_UTILS_LOG_LEVEL", "ınfo"), ("MAP_UTILS_RASTER_TILE_SIZE", " +1_024 ")]
    let blank : Environment := [("MAP_UTILS_VECTOR_SCHEMES", " ,,")]
    let fields : Fields := [("log_level", .text "warnıng")]
    (∃ s, ofEnvironment env = .ok s ∧ s.rasterTileSize = 1024 ∧ s.logLevel = .info ∧ s.Opens) ∧
      (∃ m, ofEnvironment blank = .error m ∧ ∀ s, Told blank s → ¬ s.IsValid) ∧
      ∃ s, ofFields fields = .ok s ∧ s.IsSound ∧ s.Opens ∧ s.logLevel = .warning := by
  intro env blank fields
  obtain ⟨reading, passing, -⟩ := accepted_settings_open
  refine ⟨?_, ?_, ?_⟩
  · have read : ofEnvironment env = .ok { standard with rasterTileSize := 1024 } := by
      decide +kernel
    obtain ⟨m, failed, -⟩ | ⟨s, given, -, -, opens, -⟩ := reading env
    · exact nomatch failed.symm.trans read
    · obtain rfl := Except.ok.inj (given.symm.trans read)
      exact ⟨_, given, rfl, rfl, opens⟩
  · have failed : (ofEnvironment blank).isOk = false := by decide +kernel
    obtain ⟨m, read, -, invalid⟩ | ⟨s, read, -⟩ := reading blank
    · exact ⟨m, read, invalid⟩
    · rw [read] at failed
      exact nomatch failed
  · have made : ofFields fields = .ok { standard with logLevel := .warning } := by decide +kernel
    obtain ⟨sound, opens, -⟩ := passing fields _ made
    exact ⟨_, made, sound, opens, rfl⟩

end Settings

end Cartography
