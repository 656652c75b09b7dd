import Cartography.Journal.Logger

/-!
# Loggers by their names

The dotted name of a logger tells its component and its own name. Setting up a logger changes that
logger only, and what a logger had settled when it was first created stays.
-/

namespace Cartography

namespace Logger

/-- A logger is told by its component, name, level and limit: its handlers follow its level. -/
theorem eq_of {a b : Logger} (component : a.component = b.component) (name : a.name = b.name)
    (level : a.level = b.level) (limit : a.limit = b.limit) : a = b := by
  have handlers : a.handlers = b.handlers := by rw [a.single, b.single, level]
  cases a
  cases b
  simp_all

theorem pathOf_inj {c d : Component} {m n : String} :
    pathOf c m = pathOf d n ↔ c = d ∧ m = n := by
  refine ⟨fun same => ?_, fun ⟨component, name⟩ => by rw [component, name]⟩
  -- no two components begin with the same letter
  have letters := congrArg String.toList same
  simp only [pathOf, String.toList_append] at letters
  cases c <;> cases d <;> simp [Component.name] at letters ⊢ <;>
    exact String.toList_inj.mp letters

@[simp] theorem level_setTo (logger : Logger) (level : Level) :
    (logger.setTo level).level = level := rfl

@[simp] theorem path_setTo (logger : Logger) (level : Level) :
    (logger.setTo level).path = logger.path := rfl

@[simp] theorem setTo_setTo (logger : Logger) (first second : Level) :
    (logger.setTo first).setTo second = logger.setTo second :=
  eq_of rfl rfl rfl rfl

@[simp] theorem created_setTo (component : Component) (name : String) (first second : Level)
    (limit : Int) : (created component name first limit).setTo second =
      created component name second limit :=
  eq_of rfl rfl rfl rfl

/-- A logger that is set up: the one that is there at another level, or else a new one. -/
def orCreated (found : Option Logger) (component : Component) (name : String) (level : Level)
    (limit : Int) : Logger :=
  match found with
  | some logger => logger.setTo level
  | none => created component name level limit

end Logger

namespace Journal

variable (journal : Journal) (component : Component) (name : String) (level : Level) (limit : Int)

theorem find?_withLogger_self (loggers : List Logger) :
    ((withLogger component name level limit loggers).find? fun logger =>
        logger.path == Logger.pathOf component name) =
      some (Logger.orCreated (loggers.find? fun logger =>
        logger.path == Logger.pathOf component name) component name level limit) := by
  induction loggers with
  | nil => simp [withLogger, Logger.orCreated, Logger.created, Logger.path]
  | cons logger rest ih =>
      rw [withLogger]
      by_cases here : logger.component = component ∧ logger.name = name
      · obtain ⟨rfl, rfl⟩ := here
        simp [Logger.orCreated, Logger.path, Logger.setTo]
      · have other : logger.path ≠ Logger.pathOf component name :=
          fun same => here (Logger.pathOf_inj.mp same)
        simp [here, other, ih]

theorem find?_withLogger_of_ne {path : String} (other : path ≠ Logger.pathOf component name)
    (loggers : List Logger) :
    ((withLogger component name level limit loggers).find? fun logger => logger.path == path) =
      loggers.find? fun logger => logger.path == path := by
  induction loggers with
  | nil => simpa [withLogger, Logger.created, Logger.path] using other.symm
  | cons logger rest ih =>
      rw [withLogger]
      by_cases here : logger.component = component ∧ logger.name = name
      · have passed : logger.path ≠ path := by
          rw [Logger.path, here.1, here.2]
          exact other.symm
        simp [here, passed]
      · simp only [if_neg here, List.find?_cons, ih]

/-- What is found of a logger that was just set up. -/
theorem find?_setUp_self :
    (journal.setUp component name level limit).find? (Logger.pathOf component name) =
      some (Logger.orCreated (journal.find? (Logger.pathOf component name)) component name level
        limit) :=
  find?_withLogger_self component name level limit journal.loggers

theorem find?_setUp_of_ne {path : String} (other : path ≠ Logger.pathOf component name) :
    (journal.setUp component name level limit).find? path = journal.find? path :=
  find?_withLogger_of_ne component name level limit other journal.loggers

end Journal

end Cartography
