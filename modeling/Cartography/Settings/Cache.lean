import Cartography.Settings.Environment

/-!
# The shared settings

Settings are read from the environment when they are first asked for and kept until they are
dropped. A reading that fails keeps nothing. `SharedSettings.access` is one step of a history in
which the environment changes and the settings are read and dropped.

## Implementation notes

Each kept reading has a number of its own, so that it can be told whether two answers are one
and the same reading.
-/

namespace Cartography

/-- A reading of the environment that is kept. -/
structure Kept where
  number : Nat
  settings : Settings

/-- The environment, the reading that is kept, and how many readings have been kept so far. -/
structure SharedSettings where
  environment : Environment
  kept : Option Kept
  count : Nat

namespace SharedSettings

/-- Nothing kept yet. -/
def start (env : Environment) : SharedSettings := ⟨env, none, 0⟩

/-- A variable is set. -/
def setVariable (s : SharedSettings) (name text : String) : SharedSettings :=
  { s with environment := s.environment.set name text }

/-- A variable is removed. -/
def unsetVariable (s : SharedSettings) (name : String) : SharedSettings :=
  { s with environment := s.environment.unset name }

/-- What is kept is dropped. -/
def reset (s : SharedSettings) : SharedSettings := { s with kept := none }

/-- The reading that is kept, or a new one. -/
def get (s : SharedSettings) : Except Settings.Misconfiguration Kept × SharedSettings :=
  match s.kept with
  | some kept => (.ok kept, s)
  | none =>
      match Settings.ofEnvironment s.environment with
      | .ok settings =>
          let kept : Kept := ⟨s.count, settings⟩
          (.ok kept, { s with kept := some kept, count := s.count + 1 })
      | .error m => (.error m, s)

/-- The settings that are given, or else the shared ones. -/
def choose (given : Option Settings) (s : SharedSettings) :
    Except Settings.Misconfiguration Settings × SharedSettings :=
  match given with
  | some settings => (.ok settings, s)
  | none =>
      match s.get with
      | (.ok kept, s) => (.ok kept.settings, s)
      | (.error m, s) => (.error m, s)

/-- The fields of the reading that is kept, or of a new one. -/
def shown (s : SharedSettings) : Except Settings.Misconfiguration Fields × SharedSettings :=
  match s.get with
  | (.ok kept, s) => (.ok kept.settings.toFields, s)
  | (.error m, s) => (.error m, s)

/-- A new reading of the environment, which is not kept. -/
def fresh (s : SharedSettings) : Except Settings.Misconfiguration Settings :=
  Settings.ofEnvironment s.environment

/-- What can be done with the shared settings and the environment behind them. -/
inductive Access
  | set (name text : String)
  | unset (name : String)
  | reset
  | get
  | shown
  | fresh
  deriving DecidableEq

/-- What an access answers. -/
inductive Reply
  | done
  | kept (kept : Kept)
  | shown (fields : Fields)
  | read (settings : Settings)
  | failed (m : Settings.Misconfiguration)

/-- The answer to an access, and the shared settings after it. -/
def access (s : SharedSettings) : Access → Reply × SharedSettings
  | .set name text => (.done, s.setVariable name text)
  | .unset name => (.done, s.unsetVariable name)
  | .reset => (.done, s.reset)
  | .get =>
      match s.get with
      | (.ok kept, s) => (.kept kept, s)
      | (.error m, s) => (.failed m, s)
  | .shown =>
      match s.shown with
      | (.ok fields, s) => (.shown fields, s)
      | (.error m, s) => (.failed m, s)
  | .fresh =>
      match s.fresh with
      | .ok settings => (.read settings, s)
      | .error m => (.failed m, s)

end SharedSettings

end Cartography
