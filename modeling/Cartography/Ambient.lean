import Cartography.Failure
import Cartography.Settings.Cache

/-!
# Computations amid shared settings

Building something from loose arguments takes settings. These are given or, where they are not, the
shared ones, which are read from the environment if need be. What is read stays in the shared
settings, also where the computation fails later on.
-/

namespace Cartography

/-- A computation that can read the shared settings and can fail. -/
abbrev Ambient := ExceptT Failure (StateM SharedSettings)

namespace Ambient

/-- A result for which no settings are read. -/
def ofExcept {α : Type} (result : Except Failure α) : Ambient α := ExceptT.mk (pure result)

/-- The settings that are given, or else the shared ones. -/
def settings (given : Option Settings) : Ambient Settings := ExceptT.mk fun shared =>
  let (read, shared) := shared.choose given
  (read.mapError .misconfigured, shared)

/-- A computation is run amid shared settings. -/
def runIn {α : Type} (shared : SharedSettings) (computation : Ambient α) :
    Except Failure α × SharedSettings :=
  (ExceptT.run computation).run shared

variable {α β : Type} (shared : SharedSettings)

/-- A computation goes on amid what the one before it has left. -/
theorem runIn_bind (computation : Ambient α) (next : α → Ambient β) :
    (computation >>= next).runIn shared =
      match computation.runIn shared with
      | (.ok a, shared) => (next a).runIn shared
      | (.error failure, shared) => (.error failure, shared) := by
  have unfolded : (computation >>= next).runIn shared =
      (ExceptT.bindCont next (computation.runIn shared).1).run (computation.runIn shared).2 := rfl
  rw [unfolded]
  rcases computation.runIn shared with ⟨_ | _, _⟩ <;> rfl

theorem runIn_settings (given : Option Settings) :
    (settings given).runIn shared =
      ((shared.choose given).1.mapError .misconfigured, (shared.choose given).2) := rfl

end Ambient

end Cartography
