import Cartography.Journal.Record

/-!
# Loggers

Every logger belongs to a component and has a level of its own. What it writes carries its
component and name, and is written again by the loggers above it in the order of dotted names.

## Implementation notes

What a logger adds to its records, and how long they may be, is settled when it is first created; its
level, and that of its handler, follow the latest creation. A logger that was asked for, but was not
set up since there is no such level, writes nothing and yet has its place among the dotted names.
-/

namespace Cartography

/-- The components that keep a journal. -/
inductive Component
  | service
  | factory
  | compiler
  | adapter
  deriving DecidableEq, Inhabited

namespace Component

/-- Every component. -/
def all : List Component := [service, factory, compiler, adapter]

/-- The name of a component. -/
def name : Component → String
  | service => "service"
  | factory => "factory"
  | compiler => "compiler"
  | adapter => "adapter"

/-- The component of a name. -/
def ofName? (s : String) : Option Component := all.find? fun c => c.name == s

end Component

/-- A level that is given as such or by a name. -/
inductive LevelChoice
  | known (level : Level)
  | named (name : String)

/-- The level of a choice; a name that no level has is reported in capitals. -/
def LevelChoice.resolve : LevelChoice → Except Failure Level
  | .known level => .ok level
  | .named name =>
      match Level.ofName? name with
      | some level => .ok level
      | none => .error (.unknownName (Text.upper name))

/-- How a component's loggers are set up. -/
structure Profile where
  component : Component
  level : LevelChoice := .known .info
  limit : Int := 1000

/-- The profile of a component for which none is given. -/
def Profile.standard (level : Level) (component : Component) : Profile :=
  { component, level := .known level }

/-- The level of components for which none is given: the lowest one if a switch says so. -/
def Profile.standardLevel (switch : String) : Level :=
  if Text.lower switch = "true" then .debug else .info

/-- A handler writes the records of a number or above. A new one writes them all. -/
structure Handler where
  threshold : Nat
  deriving DecidableEq

/-- The handlers of a logger that is set to a level: one is added where there is none, and each of
them is set to the level. -/
def Handler.settle (level : Level) (handlers : List Handler) : List Handler :=
  let all := if handlers.isEmpty then handlers ++ [⟨0⟩] else handlers
  all.map fun handler => { handler with threshold := level.number }

/-- A logger: its level, its handlers, and what was settled when it was first created. It has a
single handler, at its own level. -/
structure Logger where
  component : Component
  name : String
  level : Level
  limit : Int
  handlers : List Handler
  single : handlers = [⟨level.number⟩]

namespace Logger

/-- The dotted name of a logger. -/
def pathOf (component : Component) (name : String) : String := component.name ++ "." ++ name

/-- The dotted name of a logger. -/
def path (logger : Logger) : String := pathOf logger.component logger.name

/-- What a logger adds to its records. -/
def context (logger : Logger) : Fields :=
  [("component_type", .text logger.component.name), ("component_name", .text logger.name)]

/-- A logger that is created at a level. -/
def created (component : Component) (name : String) (level : Level) (limit : Int) : Logger where
  component
  name
  level
  limit
  handlers := Handler.settle level []
  single := rfl

/-- A logger that is set to another level. -/
def setTo (logger : Logger) (level : Level) : Logger :=
  { logger with
    level
    handlers := Handler.settle level logger.handlers
    single := by rw [logger.single]; rfl }

end Logger

/-- The loggers there are, what has been written, and the dotted names of loggers that were asked
for and not set up. -/
structure Journal where
  loggers : List Logger
  records : List Record
  bare : List String

namespace Journal

/-- A journal without any loggers. -/
def empty : Journal := ⟨[], [], []⟩

/-- The logger of a dotted name. -/
def find? (journal : Journal) (path : String) : Option Logger :=
  journal.loggers.find? fun logger => logger.path == path

/-- Whether a logger of a dotted name was ever asked for. -/
def knows (journal : Journal) (path : String) : Bool :=
  (journal.find? path).isSome || journal.bare.contains path

/-- The loggers above a name that is given from its end, the nearest first. Where a name above is not
known the search goes on two characters further down, so that of two dots in a row only the second
one counts. -/
def ancestorsFrom (journal : Journal) : List Char → List Logger
  | [] => []
  | '.' :: c :: above =>
      let path := String.ofList (c :: above).reverse
      if journal.knows path then (journal.find? path).toList ++ journal.ancestorsFrom (c :: above)
      else journal.ancestorsFrom above
  | _ :: rest => journal.ancestorsFrom rest

/-- The loggers above a dotted name, the nearest first. -/
def ancestors (journal : Journal) (path : String) : List Logger :=
  journal.ancestorsFrom path.toList.reverse

/-- The loggers with a level put on one of them, or with that logger added. -/
def withLogger (component : Component) (name : String) (level : Level) (limit : Int) :
    List Logger → List Logger
  | [] => [.created component name level limit]
  | logger :: rest =>
      if logger.component = component ∧ logger.name = name then logger.setTo level :: rest
      else logger :: withLogger component name level limit rest

/-- The journal with a logger at a level. -/
def setUp (journal : Journal) (component : Component) (name : String) (level : Level)
    (limit : Int) : Journal :=
  { journal with loggers := withLogger component name level limit journal.loggers }

/-- A logger is created, or one that is there is set to another level. It is asked for before its
level is made out. -/
def create (journal : Journal) (component : Component) (name : String) (profile : Profile) :
    Except Failure Unit × Journal :=
  match profile.level.resolve with
  | .ok level => (.ok (), journal.setUp component name level profile.limit)
  | .error failure =>
      (.error failure, { journal with bare := Logger.pathOf component name :: journal.bare })

/-- The record of an entry, if it can be written out. -/
def record? (logger : Logger) (entry : Entry) : Option Record :=
  let dimensions := logger.context.merge entry.dimensions
  match entry.text? logger.limit with
  | some message =>
      if (Value.mapping dimensions).isWritable ∧ entry.mention ≠ .unshown then
        some ⟨Level.nameOfNumber entry.level, logger.path, message, dimensions, entry.mention⟩
      else none
  | none => none

/-- How many handlers write a logger's entry, of its own and of those above it: the levels of the
loggers above do not matter, only those of their handlers. -/
def copies (journal : Journal) (logger : Logger) (entry : Entry) : Nat :=
  ((logger :: journal.ancestors logger.path).flatMap (·.handlers)).countP fun handler =>
    (handler.threshold : Int) ≤ entry.level

/-- An entry is written by the logger of a dotted name, unless it is below the logger's level. -/
def write (journal : Journal) (path : String) (entry : Entry) : Journal :=
  match journal.find? path with
  | none => journal
  | some logger =>
      if entry.level < logger.level.number then journal
      else
        match record? logger entry with
        | none => journal
        | some record =>
            { journal with
              records := journal.records ++ List.replicate (journal.copies logger entry) record }

end Journal

end Cartography
