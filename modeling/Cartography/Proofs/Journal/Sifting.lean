import Cartography.Proofs.Journal.Loggers
import Cartography.Proofs.Journal.Writing

/-!
# What a higher level leaves

Two journals are told apart by the level of one logger. The same entries are written to both. Of the
records that are made at the lower level, those of that logger that are below the higher level are
missing at the higher one, and nothing else is different.

## Implementation notes

A logger above another one would write records of that one at a level of its own. Entries are
therefore taken to go to loggers without any above them, and to be of one of the five levels, as all
entries of a toolkit are (`Ordinary`).
-/

namespace Cartography

namespace Level

theorem name_inj {a b : Level} : a.name = b.name ↔ a = b := by
  cases a <;> cases b <;> decide

theorem nameOfNumber_number (level : Level) : nameOfNumber level.number = level.name := by
  cases level <;> rfl

end Level

/-- Whether a record is of a level or above. -/
def Record.reaches (level : Level) (record : Record) : Bool :=
  Level.all.any fun own => own.name == record.level && decide (level.number ≤ own.number)

theorem Record.reaches_iff {level own : Level} {record : Record} (named : record.level = own.name) :
    record.reaches level = true ↔ level.number ≤ own.number := by
  simp only [reaches, List.any_eq_true, Bool.and_eq_true, beq_iff_eq, decide_eq_true_eq, named,
    Level.name_inj]
  constructor
  · rintro ⟨_, -, rfl, reached⟩
    exact reached
  · exact fun reached => ⟨own, Level.mem_all own, rfl, reached⟩

/-- An entry of one of the levels for a logger that has none above it. -/
structure Ordinary (path : String) (entry : Entry) : Prop where
  undotted : ∃ component name, '.' ∉ name.toList ∧ path = Logger.pathOf component name
  levelled : ∃ level : Level, entry.level = level.number

namespace Journal

variable {journal : Journal} {path : String} {entry : Entry}

theorem logger_of_mem_added {record : Record} (member : record ∈ journal.added path entry) :
    record.logger = path := by
  rw [added] at member
  split at member
  · cases member
  · rename_i logger found
    split at member
    · cases member
    · obtain ⟨made, recorded, copied⟩ := List.mem_flatMap.mp member
      obtain ⟨_, _, _, _, rfl⟩ := record?_eq_some_iff.mp (Option.mem_toList.mp recorded)
      rw [List.eq_of_mem_replicate copied]
      exact path_of_find? found

/-- What is added for a logger that has none above it. -/
theorem added_undotted (undotted : ∃ component name, '.' ∉ name.toList ∧
      path = Logger.pathOf component name) {logger : Logger}
    (found : journal.find? path = some logger) :
    journal.added path entry =
      if entry.level < logger.level.number then [] else (record? logger entry).toList := by
  obtain ⟨component, name, undotted, rfl⟩ := undotted
  simp only [added, found]
  split
  · rfl
  · rename_i enabled
    rw [copies_undotted undotted found (Int.not_lt.mp enabled)]
    cases record? logger entry <;> rfl

/-- Entries are written in turn. -/
def writeAll (journal : Journal) (entries : List (String × Entry)) : Journal :=
  entries.foldl (fun journal e => journal.write e.1 e.2) journal

/-- Two journals have the same loggers, but for the level of one of them. -/
structure SetApart (own : String) (lower higher : Level) (low high : Journal) : Prop where
  raised : ∃ logger, low.find? own = some logger ∧ logger.level = lower ∧
    high.find? own = some (logger.setTo higher)
  others : ∀ path, path ≠ own → high.find? path = low.find? path

theorem setApart_setUp (journal : Journal) (component : Component) (name : String)
    (lower higher : Level) (limit : Int) :
    SetApart (Logger.pathOf component name) lower higher
      (journal.setUp component name lower limit) (journal.setUp component name higher limit) where
  raised := by
    refine ⟨_, journal.find?_setUp_self .., ?_, ?_⟩
    · cases journal.find? (Logger.pathOf component name) <;> rfl
    · rw [journal.find?_setUp_self]
      cases journal.find? (Logger.pathOf component name) <;> simp [Logger.orCreated]
  others path other := by
    rw [journal.find?_setUp_of_ne _ _ _ _ other, journal.find?_setUp_of_ne _ _ _ _ other]

/-- What is left of some records at a higher level of a logger: all of others, and its own ones that
reach the level. -/
def sifted (own : String) (level : Level) (records : List Record) : List Record :=
  records.filter fun record => record.logger ≠ own || record.reaches level

namespace SetApart

variable {own : String} {lower higher : Level} {low high : Journal}

/-- Of the records that an entry adds, those that reach the higher level are left. -/
theorem added_own (apart : SetApart own lower higher low high)
    (below : lower.number ≤ higher.number) (ordinary : Ordinary own entry) :
    high.added own entry = sifted own higher (low.added own entry) := by
  obtain ⟨logger, found, rfl, raised⟩ := apart.raised
  obtain ⟨level, is⟩ := ordinary.levelled
  have same : record? (logger.setTo higher) entry = record? logger entry := rfl
  rw [added_undotted ordinary.undotted found, added_undotted ordinary.undotted raised, same]
  cases recorded : record? logger entry with
  | none =>
      rw [Option.toList_none, ite_self, ite_self]
      rfl
  | some record =>
      obtain ⟨_, _, _, _, made⟩ := record?_eq_some_iff.mp recorded
      have mine : record.logger = own := by
        rw [← made]
        exact path_of_find? found
      have named : record.level = level.name := by
        rw [← made, is]
        exact level.nameOfNumber_number
      have left : sifted own higher [record] =
          if higher.number ≤ level.number then [record] else [] := by
        simp [sifted, mine, List.filter_cons, Record.reaches_iff named]
      have hides (other : Level) : entry.level < other.number ↔ level.number < other.number := by
        rw [is]
        exact Int.ofNat_lt
      simp only [Logger.level_setTo, hides, Option.toList_some]
      by_cases hidden : level.number < logger.level.number
      · rw [if_pos hidden, if_pos (Nat.lt_of_lt_of_le hidden below)]
        rfl
      · rw [if_neg hidden, left]
        simp only [← Nat.not_le, ite_not]

theorem added_eq (apart : SetApart own lower higher low high)
    (below : lower.number ≤ higher.number) (ordinary : Ordinary path entry) :
    high.added path entry = sifted own higher (low.added path entry) := by
  by_cases here : path = own
  · subst here
    exact apart.added_own below ordinary
  · have passed : ∀ record ∈ low.added path entry,
        (record.logger ≠ own || record.reaches higher) = true := by
      intro record member
      simp [logger_of_mem_added member, here]
    rw [sifted, List.filter_eq_self.mpr passed]
    cases found : low.find? path with
    | none => simp [added, apart.others path here, found]
    | some logger =>
        rw [added_undotted ordinary.undotted found,
          added_undotted ordinary.undotted ((apart.others path here).trans found)]

/-- Entries that are written to both journals leave their loggers as they are. -/
theorem write (apart : SetApart own lower higher low high) (path : String) (entry : Entry) :
    SetApart own lower higher (low.write path entry) (high.write path entry) where
  raised := by simpa only [find?_write] using apart.raised
  others := by simpa only [find?_write] using apart.others

/-- Entries are written to both journals in turn. -/
theorem writeAll (apart : SetApart own lower higher low high)
    (below : lower.number ≤ higher.number) (entries : List (String × Entry))
    (ordinary : ∀ e ∈ entries, Ordinary e.1 e.2) :
    SetApart own lower higher (low.writeAll entries) (high.writeAll entries) ∧
      ∃ records, (low.writeAll entries).records = low.records ++ records ∧
        (high.writeAll entries).records = high.records ++ sifted own higher records := by
  induction entries generalizing low high with
  | nil => exact ⟨apart, [], by simp [Journal.writeAll, sifted]⟩
  | cons e rest ih =>
      obtain ⟨still, records, left, right⟩ := ih (apart.write e.1 e.2)
        fun e' member => ordinary e' (List.mem_cons_of_mem _ member)
      refine ⟨still, low.added e.1 e.2 ++ records, ?_, ?_⟩
      · exact left.trans (by rw [write_eq, List.append_assoc])
      · refine right.trans ?_
        rw [write_eq, apart.added_eq below (ordinary e (List.mem_cons_self ..)), sifted, sifted,
          sifted, List.filter_append, List.append_assoc]

end SetApart

end Journal

end Cartography
