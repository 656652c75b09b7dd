import Cartography.Journal.Logger

/-!
# Guarded functions

A function may be guarded: if it fails, the failure is written to a journal and passed on. The
logger is given, or created for a component and a name, or for the module of the function.
-/

namespace Cartography

/-- The logger that a guard writes to. -/
inductive Guard
  | logger (path : String)
  | component (component : Component) (name : String)
  | module (name : String)

namespace Guard

/-- The guard that its settings give: a logger goes first, then a component with a name that is
not empty, and last the module of the function, if it has one. -/
def choose (path : Option String) (component : Option Component) (name : Option String)
    (module : Value) : Guard :=
  match path, component, name with
  | some path, _, _ => .logger path
  | none, some c, some name =>
      if name = "" then ofModule module else .component c name
  | none, _, _ => ofModule module
where
  ofModule : Value → Guard
    | .text "" => .module "unknown"
    | .text name => .module name
    | _ => .module "unknown"

/-- The journal with the guard's logger in it, and the name of that logger. A logger that is
created has the standard level. -/
def enter (level : Level) (journal : Journal) : Guard → Except Failure String × Journal
  | .logger path => (.ok path, journal)
  | .component c name => created c name
  | .module name => created .service name
where
  created (c : Component) (name : String) : Except Failure String × Journal :=
    let (answer, journal) := journal.create c name (.standard level c)
    (answer.map fun _ => Logger.pathOf c name, journal)

end Guard

/-- How a guarded call ends: with its arguments as they were, with the incident it raised, or
with something of either that cannot be shown. -/
inductive GuardedEnd
  | returned
  | raised (i : Incident)
  | unshown

/-- A guarded function is called, and either returns or raises an incident, which may have no
text. -/
def Journal.guarded (journal : Journal) (level : Level) (guard : Guard) (function : String)
    (module : Value) (arguments : List Value) (named : Fields)
    (raised : Option (Option Incident)) : Except Failure GuardedEnd × Journal :=
  match guard.enter level journal with
  | (.error failure, journal) => (.error failure, journal)
  | (.ok path, journal) =>
      match raised with
      | none => (.ok .returned, journal)
      | some none => (.ok .unshown, journal)
      | some (some incident) =>
          match Entry.failed? function module arguments named incident with
          | some entry => (.ok (.raised incident), journal.write path entry)
          | none => (.ok .unshown, journal)

end Cartography
