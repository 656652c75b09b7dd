import Cartography.Proofs.Host.Noting
import Cartography.Proofs.Host.Unread
import Cartography.Proofs.Journal.Sifting
import Cartography.Proofs.Toolkit.ErrorListening
import Cartography.Toolkit.Session

/-!
# Levels of logging

The level of logging decides what is written, and nothing else. Two toolkits whose settings differ
in the level only answer alike and ask alike, turn by turn, on any host; and what the one of the
higher level writes is what the other one writes, without the records of the toolkit's logger that
are below the higher level.

## Implementation notes

Operations do not read the level, and nothing reads the journal (`Script.run_alike`). The two runs
therefore hand over the same entries, and the journals are compared entry by entry
(`Journal.SetApart.writeAll`).
-/

namespace Cartography

/-- The settings with another level. -/
def Settings.withLevel (settings : Settings) (level : Level) : Settings :=
  { settings with logLevel := level }

/-! ### What operations note -/

theorem ordinary_toolkit {entry : Entry} (level : Level) (is : entry.level = level.number) :
    Ordinary Stage.logger entry :=
  ⟨⟨.service, "MapUtils", by decide, rfl⟩, level, is⟩

theorem ordinary_error (pattern message : String) :
    Ordinary Stage.logger (Stage.errorEntry pattern message) := by
  rw [Stage.errorEntry]
  split
  · exact ordinary_toolkit .debug rfl
  · exact ordinary_toolkit .error rfl

theorem ordinary_compiler {entry : Entry} (level : Level) (is : entry.level = level.number) :
    Ordinary Expression.logger entry :=
  ⟨⟨.compiler, "JamSession", by decide, rfl⟩, level, is⟩

/-- Compiling notes a success for debugging and a failure as an error. -/
theorem Expression.notes_compile (source : Value) : (compile source).Notes Ordinary := by
  unfold compile
  split
  · exact ⟨ordinary_compiler .debug rfl, trivial⟩
  · split
    · rename_i entry noted
      refine ⟨ordinary_compiler .error ?_, trivial⟩
      rw [entryOfFailure?, Entry.failed?] at noted
      split at noted
      · obtain rfl := Option.some.inj noted
        rfl
      · cases noted
    · trivial

namespace Toolkit

theorem notes_sendProperty (layer : String) (name value : Value) :
    (sendProperty layer name value).Notes Ordinary := by
  unfold sendProperty
  split
  · dsimp only
    split
    · exact .request_unit _
    · exact .request_unit _
    · exact ⟨ordinary_toolkit .warning rfl, .request_unit _⟩
  · trivial

theorem notes_setProperty (layers property value : Value) :
    (setProperty layers property value).Notes Ordinary :=
  .behind fun _ => .behind fun ids =>
    .forEach (fun id => .forEach (fun _ => notes_sendProperty id _ _) _) ids

theorem notes_setFilter (layers filter : Value) : (setFilter layers filter).Notes Ordinary :=
  .behind fun ids => .forEach (fun _ => .request_unit _) ids

theorem notes_registerLayer (layer : Value) : (registerLayer layer).Notes Ordinary := by
  unfold registerLayer
  split
  · split
    · exact ⟨ordinary_toolkit .debug rfl, .request_unit _⟩
    · trivial
  · trivial

theorem notes_addBuilt (id : Value) (built : Except Failure Fields) :
    (addBuilt id built).Notes Ordinary := by
  refine .behind fun spec => ?_
  unfold registerSource
  split
  · exact ⟨ordinary_toolkit .debug rfl, .request_unit _⟩
  · trivial

/-- Removing notes nothing by itself; what is noted meanwhile comes of errors. -/
theorem notes_suppressing (pattern : String) (ids : Value) (removal : Value → Request) :
    (suppressing pattern (removeEach ids removal)).Notes Ordinary := by
  refine .bind (fun reply => trivial) fun _ => .ensuring ?_ (.request_unit _)
  exact .behind fun ids => .forEach (fun _ => .request_unit _) ids

end Toolkit

namespace Command

/-- The level has no part in what a command does. -/
theorem script_withLevel (settings : Settings) (level : Level) (command : Command) :
    command.script (settings.withLevel level) = command.script settings := by
  cases command <;> rfl

theorem notes_silent {script : Script Unit} (notes : script.Notes Ordinary) :
    (silent script).Notes Ordinary :=
  notes.bind fun _ => trivial

theorem notes_handing (source : Value) {script : Script Unit} (notes : script.Notes Ordinary) :
    (handing source script).Notes Ordinary :=
  notes.bind fun _ => trivial

/-- All that a command notes is of one of the levels. -/
theorem notes (settings : Settings) (command : Command) :
    (command.script settings).Notes Ordinary := by
  cases command with
  | compile source => exact .bind (Expression.notes_compile source) fun _ => trivial
  | properties properties => exact .behind fun _ => trivial
  | layerStyle arguments => exact .behind fun _ => trivial
  | setProperty layers property value =>
      exact notes_silent (Toolkit.notes_setProperty layers property value)
  | setVisible layers visible => exact notes_silent (Toolkit.notes_setProperty layers _ _)
  | setFilter layers filter => exact notes_silent (Toolkit.notes_setFilter layers filter)
  | registerLayer layer => exact notes_silent (Toolkit.notes_registerLayer layer)
  | addLayer id source kind properties =>
      exact notes_silent (.behind fun _ => Toolkit.notes_registerLayer _)
  | addSource id spec => exact notes_handing id (Toolkit.notes_addBuilt id _)
  | addGeojson id data options => exact notes_handing id (Toolkit.notes_addBuilt id _)
  | addVector id spec options => exact notes_handing id (Toolkit.notes_addBuilt id _)
  | addRaster id spec kind options => exact notes_handing id (Toolkit.notes_addBuilt id _)
  | removeLayers layers => exact notes_silent (Toolkit.notes_suppressing _ layers _)
  | removeSources sources => exact notes_silent (Toolkit.notes_suppressing _ sources _)
  | update id data =>
      exact notes_silent (.bind (fun reply => trivial) fun _ => .request_unit _)
  | onLoad listener =>
      refine notes_silent (.bind (fun reply => trivial) fun loaded => ?_)
      split
      · exact fun reply => trivial
      · exact .request_unit _
  | addBound source id kind properties =>
      exact notes_handing source (.behind fun _ => Toolkit.notes_registerLayer _)

end Command

namespace Call

theorem script_withLevel (settings : Settings) (level : Level) (call : Call) :
    call.script (settings.withLevel level) = call.script settings := by
  simp only [script, Command.script_withLevel]

theorem notes (settings : Settings) (call : Call) : (call.script settings).Notes Ordinary :=
  .behind fun command => command.notes settings

end Call

/-! ### Runs in turns -/

/-- A turn of a run: an operation is called, or the host acts by itself, which is to say that it
goes on to another state and fires events. -/
inductive Turn (σ : Type)
  | calls (call : Call)
  | acts (change : σ → σ) (events : List (String × Value))

/-- What comes out at the higher level, beside what comes out at the lower one. -/
structure Outcome.Sifted (higher : Level) (low high : Outcome) : Prop where
  answer : high.answer = low.answer
  happenings : high.happenings = low.happenings
  records : high.records = Journal.sifted Stage.logger higher low.records

namespace Turn

variable {σ : Type} (settings : Settings) (host : Host σ)

/-- A turn is taken. -/
def take (stage : Stage σ) : Turn σ → Except Failure Answer × Stage σ
  | calls call => (call.script settings).run host stage
  | acts change events =>
      let (reply, stage) := Stage.fireAll events { stage with host := change stage.host }
      (Session.nothing reply, stage)

/-- One turn is taken and what it came to is told. -/
def observe (stage : Stage σ) (turn : Turn σ) : Outcome × Stage σ :=
  let taken := turn.take settings host stage
  (⟨taken.1, taken.2.happenings.drop stage.happenings.length,
    taken.2.journal.records.drop stage.journal.records.length⟩, taken.2)

/-- Turns are taken one after the other; one that fails does not end the run. -/
def play : List (Turn σ) → Stage σ → List Outcome
  | [], _ => []
  | turn :: rest, stage =>
      let seen := turn.observe settings host stage
      seen.1 :: play rest seen.2

/-- The moments of a turn. -/
def moments (stage : Stage σ) : Turn σ → List Moment
  | calls call => (call.script settings).moments host stage
  | acts change events => Stage.tellingsAll events { stage with host := change stage.host }

theorem take_withLevel (level : Level) (stage : Stage σ) (turn : Turn σ) :
    turn.take (settings.withLevel level) host stage = turn.take settings host stage := by
  cases turn with
  | calls call => rw [take, take, Call.script_withLevel]
  | acts change events => rfl

theorem play_withLevel (level : Level) (turns : List (Turn σ)) (stage : Stage σ) :
    play (settings.withLevel level) host turns stage = play settings host turns stage := by
  induction turns generalizing stage with
  | nil => rfl
  | cons turn rest ih => simp only [play, observe, take_withLevel, ih]

theorem journal_take (stage : Stage σ) (turn : Turn σ) :
    (turn.take settings host stage).2.journal =
      stage.journal.writeAll ((turn.moments settings host stage).filterMap Moment.entry?) := by
  cases turn with
  | calls call => exact Script.journal_run host _ stage
  | acts change events => exact Stage.journal_fireAll events _

variable {s t : Stage σ}

theorem take_alike (turn : Turn σ) (alike : s.Alike t) :
    Stage.EndAlike (turn.take settings host s) (turn.take settings host t) := by
  cases turn with
  | calls call => exact Script.run_alike host _ alike
  | acts change events =>
      have fired := (alike.moved (change s.host)).fireAll events
      rw [take, take, ← alike.host]
      generalize Stage.fireAll events { s with host := change s.host } = first at fired
      generalize Stage.fireAll events { t with host := change s.host } = second at fired
      obtain ⟨reply, fired⟩ := fired
      exact .mk _ fired

theorem moments_alike (turn : Turn σ) (alike : s.Alike t) :
    turn.moments settings host s = turn.moments settings host t := by
  cases turn with
  | calls call => exact Script.moments_alike host _ alike
  | acts change events =>
      rw [moments, moments, ← alike.host]
      exact (alike.moved (change s.host)).tellingsAll_eq events

/-- All that is noted in a turn is of one of the levels. -/
theorem ordinary (turn : Turn σ) (stage : Stage σ) :
    ∀ e ∈ (turn.moments settings host stage).filterMap Moment.entry?, Ordinary e.1 e.2 := by
  cases turn with
  | calls call => exact (call.notes settings).entries ordinary_error host stage
  | acts change events =>
      intro e member
      obtain ⟨pattern, message, rfl⟩ := Stage.entry_of_tellingsAll member
      exact ordinary_error pattern message

variable {lower higher : Level}

/-- A turn is taken on two stages whose journals are apart: the same comes out, but for records, and
the journals are apart as before. -/
theorem observe_sifted (below : lower.number ≤ higher.number) (turn : Turn σ) (alike : s.Alike t)
    (apart : Journal.SetApart Stage.logger lower higher s.journal t.journal) :
    (turn.observe settings host s).1.Sifted higher (turn.observe settings host t).1 ∧
      (turn.observe settings host s).2.Alike (turn.observe settings host t).2 ∧
      Journal.SetApart Stage.logger lower higher (turn.observe settings host s).2.journal
        (turn.observe settings host t).2.journal := by
  have ends := turn.take_alike settings host alike
  have low := turn.journal_take settings host s
  have high := turn.journal_take settings host t
  rw [← turn.moments_alike settings host alike] at high
  obtain ⟨still, records, left, right⟩ :=
    apart.writeAll below _ (turn.ordinary settings host s)
  refine ⟨⟨ends.answer_eq.symm, ?_, ?_⟩, ends.alike, ?_⟩
  · simp only [observe, ends.alike.happenings, alike.happenings]
  · simp only [observe, low, high, left, right, List.drop_left]
  · simpa only [observe, low, high] using still

theorem play_apart (below : lower.number ≤ higher.number) (turns : List (Turn σ))
    (alike : s.Alike t) (apart : Journal.SetApart Stage.logger lower higher s.journal t.journal) :
    List.Forall₂ (Outcome.Sifted higher) (play settings host turns s)
      (play settings host turns t) := by
  induction turns generalizing s t with
  | nil => exact .nil
  | cons turn rest ih =>
      obtain ⟨sifted, after, still⟩ := turn.observe_sifted settings host below alike apart
      exact .cons sifted (ih after still)

/-- **The level of logging decides what is written, and nothing else.** A toolkit is opened on the
same stage at two levels, and the same turns are taken: operations are called, and the host acts by
itself, in any order. Turn by turn the answers and what happens are the same, and what is written
at the higher level is what is written at the lower one, without the records of the toolkit's logger
that are below the higher level. -/
theorem play_sifted (stage : Stage σ) (turns : List (Turn σ))
    (below : lower.number ≤ higher.number) :
    let low := settings.withLevel lower
    let high := settings.withLevel higher
    List.Forall₂ (Outcome.Sifted higher)
      (play low host turns { stage with journal := stage.journal.opened low })
      (play high host turns { stage with journal := stage.journal.opened high }) := by
  dsimp only
  rw [play_withLevel, play_withLevel]
  exact play_apart settings host below turns ⟨rfl, rfl, rfl, rfl⟩
    (stage.journal.setApart_setUp .service "MapUtils" lower higher 1000)

/-- A layer that is not there is removed and then given a property that is not known. The host's
error is noted for debugging and the property with a warning; at the level of errors neither is, and
all else is the same. -/
theorem missing_layer_at_errors :
    let turns : List (Turn MemoryHost) :=
      [.calls (.onToolkit "remove_layer" [.text "roads"] []),
        .calls (.onToolkit "set_property" [.text "roads", .text "speed", .integer 5] [])]
    let low := Settings.standard.withLevel .debug
    let high := Settings.standard.withLevel .error
    let lines (outcome : Outcome) := outcome.records.map (·.level)
    List.Forall₂ (Outcome.Sifted .error)
        (play low .memory turns { Stage.bare with journal := Journal.empty.opened low })
        (play high .memory turns { Stage.bare with journal := Journal.empty.opened high }) ∧
      (play low .memory turns { Stage.bare with journal := Journal.empty.opened low }).map lines =
        [["DEBUG"], ["WARNING"]] ∧
      (play high .memory turns { Stage.bare with journal := Journal.empty.opened high }).map lines =
        [[], []] := by
  refine ⟨play_sifted .standard .memory .bare _ (by decide), ?_, ?_⟩ <;> rfl

end Turn

end Cartography
