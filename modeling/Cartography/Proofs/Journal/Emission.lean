import Cartography.Proofs.Journal.Above

/-!
# How often an entry is written

A logger has a single handler, at its own level, and both are those of the latest call for the
logger. An entry that the logger lets through is written by that handler and by the handlers of the
loggers above it that reach down to its level. Each line is the logger's own.

## Implementation notes

A name with two dots in a row may hide a logger above it, and dimensions or a failure that have no
text are not written at all, so that the lines are not always as many as the names would have it
(`not_writesAsNamed`).
-/

namespace Cartography

/-- A handler of the logger writes what is of a level. -/
def Logger.hears (level : Int) (logger : Logger) : Bool :=
  logger.handlers.any fun handler => (handler.threshold : Int) ≤ level

/-- What an entry carries has a text: the failure that it mentions, and of each dimension the value
that counts. -/
def Entry.Shown (entry : Entry) : Prop :=
  entry.mention ≠ .unshown ∧
    ∀ key value, entry.dimensions.last? key = some value → ¬ value.HoldsOversized

/-- A line of a logger: it names the logger, its component and its own name unless the entry says
otherwise, and the other dimensions of the entry. -/
structure Record.IsOf (logger : Logger) (entry : Entry) (record : Record) : Prop where
  path : record.logger = logger.path
  component : record.dimensions.get? "component_type" =
    some ((entry.dimensions.last? "component_type").getD (.text logger.component.name))
  name : record.dimensions.get? "component_name" =
    some ((entry.dimensions.last? "component_name").getD (.text logger.name))
  others : ∀ key, key ≠ "component_type" → key ≠ "component_name" →
    record.dimensions.get? key = entry.dimensions.last? key

namespace Journal

/-- How many loggers whose names stand above that of a logger hear a level. -/
def hearers (journal : Journal) (level : Int) (lower : Logger) : Nat :=
  journal.loggers.countP fun upper => upper.hears level && upper.isAbove lower

/-- What comes of an entry for a logger. -/
structure Emits (journal : Journal) (logger : Logger) (entry : Entry) : Prop where
  /-- Nothing is written below the level of the logger. -/
  below : entry.level < logger.level.number →
    (journal.write logger.path entry).records = journal.records
  /-- Nothing is written of what has no text. -/
  hidden : ¬ entry.Shown → (journal.write logger.path entry).records = journal.records
  /-- Otherwise there is a line of the logger's handler, and one more for each logger above it that
  hears the level; only loggers behind whose names two dots follow may be missed. -/
  lines : logger.level.number ≤ entry.level → entry.Shown →
    ∀ message, entry.text? logger.limit = some message → ∃ count record,
      (journal.write logger.path entry).records =
        journal.records ++ List.replicate (1 + count) record ∧
      record.message = message ∧ record.IsOf logger entry ∧
      count ≤ journal.hearers entry.level logger ∧
      ((∀ upper ∈ journal.loggers, upper.isTwoDotsAbove logger = false) →
        count = journal.hearers entry.level logger)

variable {journal : Journal} {logger : Logger} {entry : Entry}

/-! ### Handlers -/

theorem countP_handlers (level : Int) (loggers : List Logger) :
    ((loggers.flatMap (·.handlers)).countP fun handler => (handler.threshold : Int) ≤ level) =
      loggers.countP (Logger.hears level) := by
  induction loggers with
  | nil => rfl
  | cons logger rest ih =>
      rw [List.flatMap_cons, List.countP_append, ih, List.countP_cons, Nat.add_comm]
      simp [Logger.hears, logger.single, List.countP_cons]

theorem hears_iff {level : Int} : logger.hears level = true ↔ logger.level.number ≤ level := by
  simp [Logger.hears, logger.single]

/-- An entry is written by the logger's own handler and by those above it. -/
theorem copies_eq (enabled : logger.level.number ≤ entry.level) :
    journal.copies logger entry =
      1 + (journal.ancestors logger.path).countP (Logger.hears entry.level) := by
  rw [copies, countP_handlers, List.countP_cons, if_pos (hears_iff.mpr enabled), Nat.add_comm]

/-! ### Dimensions -/

theorem context_distinct (logger : Logger) : logger.context.Distinct := by
  simp [Fields.Distinct, Logger.context]

theorem isWritable_merge_iff (logger : Logger) (dimensions : Fields) :
    (Value.mapping (logger.context.merge dimensions)).isWritable = true ↔
      ∀ key value, dimensions.last? key = some value → ¬ value.HoldsOversized := by
  rw [Value.isWritable_iff, Value.holdsOversized_mapping]
  constructor
  · intro none_ key value found holds
    refine none_ ⟨(key, value), Fields.mem_of_get? ?_, holds⟩
    rw [Fields.get?_merge, found, Option.some_or]
  · rintro shown ⟨⟨key, value⟩, member, holds⟩
    have found := (Fields.get?_eq_some_iff ((context_distinct logger).merge dimensions)).mpr member
    rw [Fields.get?_merge] at found
    rcases Option.or_eq_some_iff.mp found with given | ⟨-, own⟩
    · exact shown key value given holds
    · exact context_writable logger (key, value) (Fields.mem_of_get? own) holds

theorem isOf_record (logger : Logger) (entry : Entry) (message : String) :
    Record.IsOf logger entry ⟨Level.nameOfNumber entry.level, logger.path, message,
      logger.context.merge entry.dimensions, entry.mention⟩ where
  path := rfl
  component := by
    rw [Fields.get?_merge]
    cases entry.dimensions.last? "component_type" <;> rfl
  name := by
    rw [Fields.get?_merge]
    cases entry.dimensions.last? "component_name" <;> rfl
  others key type name := by
    have missing : logger.context.get? key = none := by
      simp [Logger.context, Fields.get?_cons, type, name]
    rw [Fields.get?_merge, missing, Option.or_none]

/-- What a logger makes of an entry with a text. -/
theorem record?_of_text {message : String} (text : entry.text? logger.limit = some message) :
    (entry.Shown → ∃ record, record? logger entry = some record ∧ record.message = message ∧
      record.IsOf logger entry) ∧
    (¬ entry.Shown → record? logger entry = none) := by
  rw [record?, text]
  constructor
  · rintro ⟨shown, dimensions⟩
    exact ⟨_, if_pos ⟨(isWritable_merge_iff _ _).mpr dimensions, shown⟩, rfl, isOf_record ..⟩
  · intro hidden
    refine if_neg ?_
    rintro ⟨dimensions, shown⟩
    exact hidden ⟨shown, (isWritable_merge_iff _ _).mp dimensions⟩

theorem record?_of_hidden (hidden : ¬ entry.Shown) : record? logger entry = none := by
  cases text : entry.text? logger.limit with
  | none => rw [record?, text]
  | some message => exact (record?_of_text text).2 hidden

/-! ### Lines -/

theorem emits (distinct : journal.Distinct) (there : logger ∈ journal.loggers) (entry : Entry) :
    journal.Emits logger entry := by
  have found : journal.find? logger.path = some logger :=
    distinct.find?_eq_some_iff.mpr ⟨there, rfl⟩
  refine ⟨fun below => ?_, fun hidden => ?_, fun enabled shown message text => ?_⟩
  · simp [write_eq, added, found, below]
  · simp [write_eq, added, found, record?_of_hidden hidden]
  · obtain ⟨record, recorded, told, own⟩ := (record?_of_text text).1 shown
    have most := journal.countP_ancestors_le logger (Logger.hears entry.level)
    have least := le_countP_ancestors distinct logger (Logger.hears entry.level)
    refine ⟨_, record, ?_, told, own, most, fun single => ?_⟩
    · simp [write_eq, added, found, Int.not_lt.mpr enabled, recorded, copies_eq enabled]
    · refine Nat.le_antisymm most (Nat.le_trans ?_ least)
      refine List.countP_mono_left fun upper member hears => ?_
      simpa [single upper member] using hears

/-- What loggers come of some calls, and what comes of entries for them. -/
structure Accounts (calls : List Creation) : Prop where
  /-- The loggers are those for which a call named a level, each of them once. -/
  created : ∀ component name, (∃ logger ∈ (empty.createAll calls).loggers,
    logger.component = component ∧ logger.name = name) ↔
      (Creation.latest? component name calls).isSome
  distinct : (empty.createAll calls).Distinct
  /-- A logger has the level of the latest call, and a single handler at that level. -/
  latest : ∀ logger ∈ (empty.createAll calls).loggers,
    (Creation.latest? logger.component logger.name calls).map (·.1) = some logger.level ∧
      logger.handlers = [⟨logger.level.number⟩]
  emits : ∀ logger ∈ (empty.createAll calls).loggers, ∀ entry,
    (empty.createAll calls).Emits logger entry

/-- **How often an entry is written.** After any calls for loggers, an entry is written once by its
logger and once for each logger above it that hears its level. -/
theorem accounts_createAll (calls : List Creation) : Accounts calls where
  created component name := by
    refine ⟨?_, fun given => ?_⟩
    · rintro ⟨logger, there, rfl, rfl⟩
      obtain ⟨-, latest, -, given, -, -⟩ := given_of_mem_createAll there
      rw [given, Option.isSome_some]
    · obtain ⟨latest, given⟩ := Option.isSome_iff_exists.mp given
      exact mem_createAll_of_given given
  distinct := distinct_createAll calls
  latest logger there := by
    obtain ⟨-, latest, -, given, -, level⟩ := given_of_mem_createAll there
    exact ⟨by rw [given, level, Option.map_some], logger.single⟩
  emits logger there entry := emits (distinct_createAll calls) there entry

example : ((empty.createAll [⟨.service, "a", { component := .service, level := .known .warning }⟩,
      ⟨.service, "a.b", { component := .service }⟩]).write "service.a.b"
    (.plain .error "hello")).records.length = 2 := by decide +kernel

/-- There are as many lines as the names would have it: one, and one more for each logger that
stands above and hears the level. -/
def WritesAsNamed (journal : Journal) (logger : Logger) (entry : Entry) : Prop :=
  ∃ lines, (journal.write logger.path entry).records = journal.records ++ lines ∧
    lines.length = 1 + journal.hearers entry.level logger

theorem not_writesAsNamed :
    let profile : Profile := { component := .service }
    let journal := empty.createAll [⟨.service, "a", profile⟩, ⟨.service, "a..b", profile⟩]
    let upper := Logger.created .service "a" .info 1000
    let lower := Logger.created .service "a..b" .info 1000
    let hello := Entry.plain .info "hello"
    (lower ∈ journal.loggers ∧ hello.text? lower.limit = some "hello" ∧
      ¬ journal.WritesAsNamed lower hello) ∧
    upper ∈ journal.loggers ∧ hello.text? upper.limit = some "hello" ∧
      ¬ journal.WritesAsNamed upper
        { hello with dimensions := [("count", .integer (10 ^ 4300))] } := by
  intro profile journal upper lower hello
  have loggers : journal.loggers = [upper, lower] := rfl
  have unread : journal.records = [] := rfl
  refine ⟨⟨by simp [loggers], rfl, ?_⟩, by simp [loggers], rfl, ?_⟩
  · rintro ⟨lines, written, count⟩
    have single : (journal.write lower.path hello).records.length = 1 := by decide +kernel
    have named : journal.hearers hello.level lower = 1 := by decide +kernel
    rw [written, unread, List.nil_append, count, named] at single
    cases single
  · rintro ⟨lines, written, count⟩
    have heavy : ¬ Entry.Shown { hello with dimensions := [("count", .integer (10 ^ 4300))] } :=
      fun shown => shown.2 "count" _ rfl (Value.holdsOversized_pow (Nat.le_refl 4300))
    have there : upper ∈ journal.loggers := by simp [loggers]
    have silent := (emits (distinct_createAll _) there _).hidden heavy
    rw [silent] at written
    rw [List.self_eq_append_right.mp written, List.length_nil] at count
    omega

end Journal

end Cartography
