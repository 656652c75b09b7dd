import Cartography.Journal.Logger
import Cartography.Proofs.Value.Entries
import Cartography.Proofs.Value.Writable

/-!
# What is written of an entry

An entry that its logger lets through becomes a record, once for the logger and once for each
logger above it. A logger whose name has no dot has none above it.
-/

namespace Cartography

/-! ### Loggers above a logger -/

namespace Logger

/-- The dotted name of a logger is never that of a component. -/
theorem pathOf_ne_name (owner component : Component) (name : String) :
    pathOf owner name ≠ component.name := by
  intro same
  have dotted : '.' ∈ (pathOf owner name).toList := by simp [pathOf]
  rw [same] at dotted
  cases component <;> simp [Component.name] at dotted

end Logger

namespace Journal

theorem ancestorsFrom_append (journal : Journal) {cs : List Char} (undotted : '.' ∉ cs)
    (rest : List Char) : journal.ancestorsFrom (cs ++ rest) = journal.ancestorsFrom rest := by
  induction cs with
  | nil => rfl
  | cons c cs ih =>
      obtain ⟨other, others⟩ := not_or.mp (List.mem_cons.not.mp undotted)
      rw [List.cons_append, ancestorsFrom]
      · exact ih others
      · rintro d above rfl
        exact absurd rfl other

theorem ancestorsFrom_undotted (journal : Journal) {cs : List Char} (undotted : '.' ∉ cs) :
    journal.ancestorsFrom cs = [] := by
  simpa [ancestorsFrom] using journal.ancestorsFrom_append undotted []

/-- No logger is above one whose name has no dot. -/
theorem ancestors_pathOf (journal : Journal) (component : Component) {name : String}
    (undotted : '.' ∉ name.toList) : journal.ancestors (Logger.pathOf component name) = [] := by
  have split : (Logger.pathOf component name).toList.reverse =
      name.toList.reverse ++ '.' :: component.name.toList.reverse := by
    simp [Logger.pathOf]
  have missing : journal.find? component.name = none := by
    rw [find?, List.find?_eq_none]
    intro logger _
    simpa [Logger.path] using Logger.pathOf_ne_name logger.component component logger.name
  have plain : '.' ∉ component.name.toList.reverse := by
    cases component <;> simp [Component.name]
  have back : String.ofList component.name.toList.reverse.reverse = component.name := by simp
  rw [ancestors, split, journal.ancestorsFrom_append (by simpa using undotted)]
  generalize component.name.toList.reverse = cs at plain back
  cases cs with
  | nil => rfl
  | cons c above =>
      rw [ancestorsFrom, back, missing, journal.ancestorsFrom_undotted plain,
        journal.ancestorsFrom_undotted (List.not_mem_of_not_mem_cons plain)]
      exact ite_self _

theorem path_of_find? {journal : Journal} {path : String} {logger : Logger}
    (found : journal.find? path = some logger) : logger.path = path := by
  simpa using List.find?_some found

end Journal

/-! ### Records -/

/-- A message without arguments is cut, and that is all. -/
theorem Entry.text?_of_bare {entry : Entry} {message : String} (text : entry.message = .text message)
    (bare : entry.arguments = []) (limit : Int) : entry.text? limit = some (cut limit message) := by
  simp only [text?, text, bare]

namespace Journal

theorem context_writable (logger : Logger) : ∀ entry ∈ logger.context,
    ¬ entry.2.HoldsOversized := by
  intro entry member
  simp only [Logger.context, List.mem_cons, List.not_mem_nil, or_false] at member
  rcases member with rfl | rfl <;> exact Value.shown_text _

/-- What a logger makes of an entry, where it makes anything of it. -/
theorem record?_eq_some_iff {logger : Logger} {entry : Entry} {record : Record} :
    record? logger entry = some record ↔
      ∃ message, entry.text? logger.limit = some message ∧
        (Value.mapping (logger.context.merge entry.dimensions)).isWritable = true ∧
        entry.mention ≠ .unshown ∧
        ⟨Level.nameOfNumber entry.level, logger.path, message,
          logger.context.merge entry.dimensions, entry.mention⟩ = record := by
  rw [record?]
  cases entry.text? logger.limit with
  | none => simp
  | some message => simp [and_assoc]

/-- The record of an entry with a text and dimensions that can be written out. -/
theorem record?_eq_some (logger : Logger) {entry : Entry} {message : String}
    (text : entry.text? logger.limit = some message) (shown : entry.mention ≠ .unshown)
    (written : ∀ dimension ∈ entry.dimensions, ¬ dimension.2.HoldsOversized) :
    record? logger entry = some ⟨Level.nameOfNumber entry.level, logger.path, message,
      logger.context.merge entry.dimensions, entry.mention⟩ := by
  refine record?_eq_some_iff.mpr ⟨message, text, ?_, shown, rfl⟩
  rw [Value.isWritable_iff, Value.holdsOversized_mapping]
  rintro ⟨dimension, member, holds⟩
  rcases Fields.mem_of_mem_merge member with own | given
  · exact context_writable logger dimension own holds
  · exact written dimension given holds

/-- The records that an entry adds: none if it is below its logger or cannot be written out, else as
many as there are handlers for it. -/
def added (journal : Journal) (path : String) (entry : Entry) : List Record :=
  match journal.find? path with
  | none => []
  | some logger =>
      if entry.level < logger.level.number then []
      else (record? logger entry).toList.flatMap (List.replicate (journal.copies logger entry))

theorem write_eq (journal : Journal) (path : String) (entry : Entry) :
    journal.write path entry =
      { journal with records := journal.records ++ journal.added path entry } := by
  rw [write, added]
  cases journal.find? path with
  | none => simp
  | some logger =>
      dsimp only
      split
      · simp
      · cases record? logger entry <;> simp

/-- Writing an entry leaves the loggers as they are. -/
theorem find?_write (journal : Journal) (path : String) (entry : Entry) (other : String) :
    (journal.write path entry).find? other = journal.find? other := by
  rw [write_eq]
  rfl

/-- An entry that its logger lets through is written once, where no logger is above. -/
theorem copies_undotted {journal : Journal} {component : Component} {name : String}
    (undotted : '.' ∉ name.toList) {logger : Logger}
    (found : journal.find? (Logger.pathOf component name) = some logger) {entry : Entry}
    (enabled : (logger.level.number : Int) ≤ entry.level) : journal.copies logger entry = 1 := by
  rw [copies, path_of_find? found, journal.ancestors_pathOf component undotted]
  simp [logger.single, enabled]

theorem records_write {journal : Journal} {component : Component} {name : String}
    (undotted : '.' ∉ name.toList) {logger : Logger}
    (found : journal.find? (Logger.pathOf component name) = some logger) {entry : Entry}
    (enabled : (logger.level.number : Int) ≤ entry.level) {record : Record}
    (recorded : record? logger entry = some record) :
    (journal.write (Logger.pathOf component name) entry).records = journal.records ++ [record] := by
  simp [write_eq, added, found, Int.not_lt.mpr enabled, recorded,
    copies_undotted undotted found enabled]

end Journal

end Cartography
