import Cartography.Proofs.Toolkit.Isolation

/-!
# Sessions as turns

What is said of turns on any host holds of sessions, whose host is in memory. A step that calls an
operation, on the toolkit or on a handle that was kept, is that call, and a step that fires an event
or says whether the host has loaded is an act of the host. A session of such steps comes to what its
turns come to, so it is a toolkit at work.

## Implementation notes

Which call a step makes hangs on the answers that were kept by then, so the turns of a session are
told step by step. A subscription or a request that is put past the toolkit is no turn, nor is a
call on a label that stands for no handle.
-/

namespace Cartography

theorem Stage.fireAll_singleton {σ : Type} (event : String) (payload : Value) (stage : Stage σ) :
    fireAll [(event, payload)] stage = stage.fire event payload := by
  rw [fireAll]
  rcases stage.fire event payload with ⟨failure | ⟨⟩, after⟩ <;> rfl

namespace Session

/-- The call that a step makes, if it makes one. -/
def call? (session : Session) : Step → Option Call
  | .call none name arguments named _ => some (.onToolkit name arguments named)
  | .call (some label) name arguments named _ =>
      match session.kept.lookup label with
      | some (.handle source) => some (.onHandle source name arguments named)
      | _ => none
  | .onLoad tag raises => some (.onLoad tag raises)
  | _ => none

/-- The turn that a step is, if it is one: a call, or an act of the host. -/
def turn? (session : Session) : Step → Option (Turn MemoryHost)
  | .fire event payload => some (.acts id [(event, payload)])
  | .setLoaded loaded => some (.acts (fun host => { host with isLoaded := loaded }) [])
  | taken => (session.call? taken).map .calls

/-- The turns that steps are when they are taken one after the other, if each of them is one. -/
def turns? (session : Session) : List Step → Option (List (Turn MemoryHost))
  | [] => some []
  | taken :: rest =>
      (session.turn? taken).bind fun turn =>
        ((session.step taken).2.turns? rest).map (turn :: ·)

variable {session : Session}

/-! ### One step -/

/-- A step has the answer of a run and leaves the session on its stage, at the settings it had. -/
structure ComesTo (session : Session) (taken : Step)
    (ran : Except Failure Answer × Stage MemoryHost) : Prop where
  answer : (session.step taken).1 = ran.1
  stage : (session.step taken).2.stage = ran.2
  settings : (session.step taken).2.settings = session.settings

theorem ComesTo.of_step {taken : Step} {answer : Except Failure Answer} {after : Session}
    (stepped : session.step taken = (answer, after)) (settings : after.settings = session.settings) :
    session.ComesTo taken (answer, after.stage) :=
  ⟨congrArg (·.1) stepped, congrArg (·.2.stage) stepped,
    (congrArg (·.2.settings) stepped).trans settings⟩

theorem run_eq (session : Session) (command : Command) :
    session.run command =
      let ran := (command.script session.settings).run .memory session.stage
      (ran.1, { session with stage := ran.2 }) := by
  rw [run, Command.runAmid_eq]

theorem stage_keep (label : Option String) (answer : Answer) :
    (session.keep label answer).stage = session.stage := by
  cases label <;> rfl

theorem settings_keep (label : Option String) (answer : Answer) :
    (session.keep label answer).settings = session.settings := by
  cases label <;> rfl

/-- A step whose command is that of a call comes to what the call comes to. -/
theorem comesTo_call {call : Call} {target : Option String} {name : String}
    {arguments : List Value} {named : Fields} (keepAs : Option String)
    (made : session.command target name arguments named = call.command) :
    session.ComesTo (.call target name arguments named keepAs)
      ((call.script session.settings).run .memory session.stage) := by
  cases result : call.command with
  | error failure =>
      rw [Call.script, result]
      exact .of_step (by rw [step, made, result]) rfl
  | ok command =>
      rw [Call.script_of_ok session.settings result]
      rcases ran : (command.script session.settings).run .memory session.stage with
        ⟨failure | answer, after⟩
      · have stepped : session.step (.call target name arguments named keepAs) =
            (.error failure, { session with stage := after }) := by
          rw [step, made, result]
          dsimp only
          rw [run_eq, ran]
        exact .of_step stepped rfl
      · have stepped : session.step (.call target name arguments named keepAs) =
            (.ok answer, keep { session with stage := after } keepAs answer) := by
          rw [step, made, result]
          dsimp only
          rw [run_eq, ran]
        have comes := ComesTo.of_step stepped (settings_keep keepAs answer)
        rwa [stage_keep] at comes

/-- A step that makes a call comes to what the call comes to. -/
theorem comesTo_of_call? {taken : Step} {call : Call} (calls : session.call? taken = some call) :
    session.ComesTo taken ((call.script session.settings).run .memory session.stage) := by
  cases taken with
  | call target name arguments named keepAs =>
      apply comesTo_call
      cases target with
      | none =>
          obtain rfl := Option.some.inj calls
          rw [command, resolve, Call.command]
          cases Callable.resolve name <;> rfl
      | some label =>
          rw [call?] at calls
          split at calls
          · rename_i source found
            obtain rfl := Option.some.inj calls
            rw [command, resolve, found, Call.command]
            dsimp only
            cases Callable.resolveOn (.handle source) name <;> rfl
          · cases calls
  | onLoad tag raises =>
      obtain rfl := Option.some.inj calls
      have stepped : session.step (.onLoad tag raises) = _ :=
        run_eq session (.onLoad (.callback tag raises))
      exact .of_step stepped rfl
  | listen event tag => cases calls
  | fire event payload => cases calls
  | setLoaded loaded => cases calls
  | direct name subjects => cases calls

/-- A step that is a turn comes to what the turn comes to. -/
theorem comesTo_of_turn? {taken : Step} {turn : Turn MemoryHost}
    (is : session.turn? taken = some turn) :
    session.ComesTo taken (turn.take session.settings .memory session.stage) := by
  have calling (is : (session.call? taken).map Turn.calls = some turn) :
      session.ComesTo taken (turn.take session.settings .memory session.stage) := by
    obtain ⟨call, calls, rfl⟩ := Option.map_eq_some_iff.mp is
    exact comesTo_of_call? calls
  cases taken with
  | fire event payload =>
      obtain rfl := Option.some.inj is
      have same : Turn.take session.settings .memory session.stage (.acts id [(event, payload)]) =
          let ran := session.stage.fire event payload
          (nothing ran.1, ran.2) := by
        rw [← Stage.fireAll_singleton]
        rfl
      have stepped : session.step (.fire event payload) =
          let ran := session.stage.fire event payload
          (nothing ran.1, { session with stage := ran.2 }) := rfl
      rw [same]
      exact .of_step stepped rfl
  | setLoaded loaded =>
      obtain rfl := Option.some.inj is
      exact .of_step rfl rfl
  | call target name arguments named keepAs => exact calling is
  | onLoad tag raises => exact calling is
  | listen event tag => exact calling is
  | direct name subjects => exact calling is

/-! ### Runs -/

/-- **A session is a run in turns.** Steps that are turns come to what the turns come to on the host
in memory, at the settings and from the stage of the session. -/
theorem play_of_turns? {steps : List Step} {turns : List (Turn MemoryHost)}
    (are : session.turns? steps = some turns) :
    (session.play steps).1 = Turn.play session.settings .memory turns session.stage := by
  induction steps generalizing session turns with
  | nil =>
      obtain rfl := Option.some.inj are
      rfl
  | cons taken rest ih =>
      obtain ⟨turn, is, mapped⟩ := Option.bind_eq_some_iff.mp are
      obtain ⟨others, after, rfl⟩ := Option.map_eq_some_iff.mp mapped
      obtain ⟨answer, stage, settings⟩ := comesTo_of_turn? is
      have rested := ih after
      rw [settings, stage] at rested
      rw [play, observe, Turn.play, Turn.observe]
      dsimp only
      rw [rested, answer, stage]

/-- A source is added, a layer is drawn on the handle that comes of it, and an event is fired. -/
example :
    (Session.mk .standard .bare [] (.start [])).turns?
        [.call none "add_source" [.text "roads", .text "mapbox://user.roads"] [] (some "handle"),
          .call (some "handle") "add_line" [.text "lines"] [] none, .fire "idle" .null] =
      some [.calls (.onToolkit "add_source" [.text "roads", .text "mapbox://user.roads"] []),
        .calls (.onHandle (.text "roads") "add_line" [.text "lines"] []),
        .acts id [("idle", .null)]] := rfl

/-- **A session is a toolkit at work.** A session that is opened on a host in memory and taken
through steps that are turns tells what a toolkit tells which is opened there and takes these turns,
whatever is done to the shared settings in between. -/
theorem work_of_turns? {given : Option Settings} {shared : SharedSettings} {host : MemoryHost}
    (opened : Session.opened given shared host = .ok session) {steps : List Step}
    {moves : List (Move MemoryHost)} (are : session.turns? steps = some (Move.turns moves)) :
    (Toolkit.work given .memory moves ⟨host, [], [], [], Journal.initial⟩ shared).1 =
      .ok (session.play steps).1 := by
  rw [play_of_turns? are, Toolkit.work]
  unfold Session.opened at opened
  split at opened
  · rename_i own stage after opening
    obtain rfl := Except.ok.inj opened
    rw [opening]
    dsimp only
    rw [Move.play_eq]
  · cases opened

end Session

end Cartography
