import Cartography.Proofs.Settings.Sharing
import Cartography.Proofs.Toolkit.LevelsApart
import Cartography.Proofs.Toolkit.OwnSettings

/-!
# Isolation from the environment

A toolkit that is opened with settings of its own works the same whatever the environment says,
whether that can be read at all, and whatever is kept of earlier readings. Nor does it matter that
the environment changes, or that the shared settings are read and dropped, while the toolkit is at
work.

## Implementation notes

Moves are turns of the toolkit and of its host, and accesses to the shared settings from aside. The
shared settings are handed from move to move, and every turn could read them. Two runs with the same
turns are both compared with the turns by themselves (`Turn.play`), which know of no shared
settings.

The loggers that are there before a toolkit is opened belong to the stage, and so does the level of
the compiler's logger.
-/

namespace Cartography

/-- What happens while a toolkit is at work: a turn is taken, or the shared settings and the
environment behind them are accessed from aside. -/
inductive Move (σ : Type)
  | turn (turn : Turn σ)
  | aside (access : SharedSettings.Access)

variable {σ : Type}

/-! ### Turns amid shared settings -/

namespace Turn

variable (own : Settings) (host : Host σ)

/-- A turn is taken amid shared settings. -/
def takeAmid (stage : Stage σ) (shared : SharedSettings) :
    Turn σ → (Except Failure Answer × Stage σ) × SharedSettings
  | calls call =>
      match call.command with
      | .ok command => command.runAmid own host stage shared
      | .error failure => ((.error failure, stage), shared)
  | acts change events => ((acts change events).take own host stage, shared)

/-- One turn is taken amid shared settings and what it came to is told. -/
def observeAmid (stage : Stage σ) (shared : SharedSettings) (turn : Turn σ) :
    (Outcome × Stage σ) × SharedSettings :=
  let (taken, shared) := turn.takeAmid own host stage shared
  ((⟨taken.1, taken.2.happenings.drop stage.happenings.length,
    taken.2.journal.records.drop stage.journal.records.length⟩, taken.2), shared)

/-- A turn is the same amid whatever is shared, and leaves it as it is. -/
theorem takeAmid_eq (turn : Turn σ) (stage : Stage σ) (shared : SharedSettings) :
    turn.takeAmid own host stage shared = (turn.take own host stage, shared) := by
  cases turn with
  | calls call =>
      cases made : call.command with
      | error failure =>
          rw [takeAmid, take, Call.script, made]
          rfl
      | ok command =>
          rw [takeAmid, take, Call.script_of_ok own made, made]
          apply Command.runAmid_eq
  | acts change events => rfl

theorem observeAmid_eq (turn : Turn σ) (stage : Stage σ) (shared : SharedSettings) :
    turn.observeAmid own host stage shared = (turn.observe own host stage, shared) := by
  rw [observeAmid, takeAmid_eq]
  rfl

end Turn

/-! ### Moves -/

namespace Move

/-- The turns among some moves. -/
def turns : List (Move σ) → List (Turn σ)
  | [] => []
  | .turn taken :: rest => taken :: turns rest
  | .aside _ :: rest => turns rest

/-- The accesses among some moves. -/
def asides : List (Move σ) → List SharedSettings.Access
  | [] => []
  | .turn _ :: rest => asides rest
  | .aside access :: rest => access :: asides rest

variable (own : Settings) (host : Host σ)

/-- Moves are made one after the other. -/
def play : List (Move σ) → Stage σ → SharedSettings → List Outcome × SharedSettings
  | [], _, shared => ([], shared)
  | .turn taken :: rest, stage, shared =>
      let ((outcome, stage), shared) := taken.observeAmid own host stage shared
      let (outcomes, shared) := play rest stage shared
      (outcome :: outcomes, shared)
  | .aside access :: rest, stage, shared => play rest stage (shared.access access).2

/-- The turns come to what they come to by themselves, and the shared settings to what the accesses
from aside make of them. -/
theorem play_eq (moves : List (Move σ)) (stage : Stage σ) (shared : SharedSettings) :
    play own host moves stage shared =
      (Turn.play own host (turns moves) stage, shared.run (asides moves)) := by
  induction moves generalizing stage shared with
  | nil => rfl
  | cons move rest ih =>
      cases move with
      | turn taken =>
          rw [play, Turn.observeAmid_eq, turns, asides, Turn.play]
          dsimp only
          rw [ih]
      | aside access =>
          rw [play, ih]
          rfl

end Move

/-! ### A toolkit at work -/

namespace Toolkit

variable (own : Settings) (host : Host σ)

/-- A toolkit is opened on a stage, with the settings that are given or else the shared ones, and
moves are made. -/
def work (given : Option Settings) (host : Host σ) (moves : List (Move σ)) (stage : Stage σ)
    (shared : SharedSettings) : Except Failure (List Outcome) × SharedSettings :=
  match (openOn given stage).runIn shared with
  | (.ok (own, stage), shared) =>
      let (outcomes, shared) := Move.play own host moves stage shared
      (.ok outcomes, shared)
  | (.error failure, shared) => (.error failure, shared)

/-- The shared settings have no part in the work of a toolkit with settings of its own, and the
work has none in what becomes of them. -/
theorem work_some (moves : List (Move σ)) (stage : Stage σ) (shared : SharedSettings) :
    work (some own) host moves stage shared =
      (.ok (Turn.play own host (Move.turns moves)
          { stage with journal := stage.journal.opened own }),
        shared.run (Move.asides moves)) := by
  have opening : (openOn (some own) stage).runIn shared =
      (.ok (own, { stage with journal := stage.journal.opened own }), shared) := runIn_openOn ..
  rw [work, opening]
  dsimp only
  rw [Move.play_eq]

/-- **Settings of one's own isolate from the environment.** A toolkit is opened with the same
settings on the same stage, here and there, where environments and kept readings may differ in any
way, and the same turns are taken, whatever is done to the environment and the shared settings in
between. It is opened here as well as there, and turn by turn the answers, the failures, the
requests to the host and the records are the same.

The loggers that are on the stage beforehand are the same here and there. The compiler's logger is
one of them, at the level that a switch in the environment gave it before there was any toolkit
(`Profile.standardLevel`), so that level is not a part of what may differ. -/
theorem work_isolated (own : Settings) (host : Host σ) (stage : Stage σ)
    {moves others : List (Move σ)} (same : Move.turns moves = Move.turns others)
    (here there : SharedSettings) :
    ∃ outcomes, (work (some own) host moves stage here).1 = .ok outcomes ∧
      (work (some own) host others stage there).1 = .ok outcomes := by
  have left := congrArg Prod.fst (work_some own host moves stage here)
  have right := congrArg Prod.fst (work_some own host others stage there)
  rw [← same] at right
  exact ⟨_, left, right⟩

/-- An environment that cannot be read: a toolkit that is given no settings is not opened in it. -/
def unreadable : SharedSettings := .start [("MAP_UTILS_RASTER_TILE_SIZE", "wide")]

example : ((openOn none Stage.bare).runIn unreadable).1.isOk = false ∧
    ((openOn none Stage.bare).runIn (.start [])).1.isOk = true := by decide

/-- A source is added and a layer on it, while the environment cannot be read and what is kept is
dropped in between. All is as in an environment with nothing in it: each turn puts a request. -/
theorem work_isolated_from_unreadable :
    let adding : Turn MemoryHost :=
      .calls (.onToolkit "add_source" [.text "roads", .text "mapbox://user.roads"] [])
    let drawing : Turn MemoryHost :=
      .calls (.onHandle (.text "roads") "add_line" [.text "lines"] [])
    let moves : List (Move MemoryHost) := [.turn adding, .turn drawing]
    let others : List (Move MemoryHost) := [.aside .get, .turn adding, .aside .reset, .turn drawing]
    ∃ outcomes, (work (some .standard) .memory moves .bare (.start [])).1 = .ok outcomes ∧
      (work (some .standard) .memory others .bare unreadable).1 = .ok outcomes ∧
      outcomes.map (·.happenings.length) = [1, 1] := by
  intro adding drawing moves others
  obtain ⟨outcomes, here, there⟩ :=
    work_isolated .standard .memory .bare (rfl : Move.turns moves = Move.turns others) (.start [])
      unreadable
  refine ⟨outcomes, here, there, ?_⟩
  rw [work_some] at here
  obtain rfl := Except.ok.inj here
  rfl

end Toolkit

/-! ### Sessions -/

namespace Session

/-- A session with other settings shared around it. -/
def amid (session : Session) (shared : SharedSettings) : Session := { session with shared }

variable (session : Session) (shared : SharedSettings)

theorem run_amid (command : Command) :
    (session.amid shared).run command =
      ((session.run command).1, (session.run command).2.amid shared) := by
  simp only [run, amid, Command.runAmid_eq]

theorem step_amid (taken : Step) :
    (session.amid shared).step taken =
      ((session.step taken).1, (session.step taken).2.amid shared) := by
  cases taken with
  | call target name arguments named keepAs =>
      have made : (session.amid shared).command target name arguments named =
          session.command target name arguments named := rfl
      rw [step, step, made]
      cases session.command target name arguments named with
      | error failure => rfl
      | ok command =>
          dsimp only
          rw [run_amid]
          rcases session.run command with ⟨failure | answer, after⟩
          · rfl
          · cases keepAs <;> rfl
  | onLoad tag raises =>
      rw [step, step]
      apply run_amid
  | listen event tag => rfl
  | fire event payload => rfl
  | setLoaded loaded => rfl
  | direct name subjects =>
      rw [step, step]
      split <;> rfl

/-- The steps of a session come to the same amid whatever is shared. -/
theorem play_amid (steps : List Step) :
    (session.amid shared).play steps =
      ((session.play steps).1, (session.play steps).2.amid shared) := by
  induction steps generalizing session with
  | nil => rfl
  | cons taken rest ih =>
      have seen : (session.amid shared).observe taken =
          ((session.observe taken).1, (session.observe taken).2.amid shared) := by
        rw [observe, step_amid]
        rfl
      rw [play, seen]
      dsimp only
      rw [ih]
      rfl

end Session

end Cartography
