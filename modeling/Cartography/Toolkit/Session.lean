import Cartography.Host.Memory
import Cartography.Toolkit.Ambient
import Cartography.Toolkit.Call

/-!
# Sessions

A toolkit at work on a host in memory: commands are called by name on the toolkit or on a handle
that was kept, and the host can be made to fire events.
-/

namespace Cartography

/-- A journal with the compiler's logger only. -/
def Journal.initial : Journal := Journal.empty.setUp .compiler "JamSession" .info 1000

/-- A journal with the toolkit's logger at the level of some settings. -/
def Journal.opened (journal : Journal) (settings : Settings) : Journal :=
  journal.setUp .service "MapUtils" settings.logLevel 1000

/-- A toolkit's settings, its host at work, the answers that were kept, and the shared settings
around it. -/
structure Session where
  settings : Settings
  stage : Stage MemoryHost
  kept : List (String × Answer)
  shared : SharedSettings

/-- One step of a session: a call by name, a subscription, an event, a change of whether the host
has loaded, or a request put to the host past the toolkit. -/
inductive Step
  | call (target : Option String) (name : String) (arguments : List Value) (named : Fields)
      (keepAs : Option String)
  | onLoad (tag : String) (raises : Option String)
  | listen (event tag : String)
  | fire (event : String) (payload : Value)
  | setLoaded (loaded : Value)
  | direct (name : String) (subjects : List Value)

/-- What a step came to: its answer, what happened during it and what was written. -/
structure Outcome where
  answer : Except Failure Answer
  happenings : List Happening
  records : List Record

namespace Session

/-- A session starts when a toolkit is opened, with the settings that are given, or else the shared
ones. -/
def opened (given : Option Settings) (shared : SharedSettings) (host : MemoryHost) :
    Except Failure Session :=
  match (Toolkit.openOn given ⟨host, [], [], [], Journal.initial⟩).runIn shared with
  | (.ok (settings, stage), shared) => .ok ⟨settings, stage, [], shared⟩
  | (.error failure, _) => .error failure

/-- A command is run. -/
def run (session : Session) (command : Command) : Except Failure Answer × Session :=
  let ((answer, stage), shared) :=
    command.runAmid session.settings .memory session.stage session.shared
  (answer, { session with stage, shared })

/-- What a name stands for on the toolkit or on an answer that was kept. -/
def resolve (session : Session) (target : Option String) (name : String) :
    Except Failure Callable :=
  match target with
  | none => Callable.resolve name
  | some label =>
      match session.kept.lookup label with
      | some answer => Callable.resolveOn answer name
      | none => .error (.unknownName label)

/-- The command that a call makes. -/
def command (session : Session) (target : Option String) (name : String)
    (arguments : List Value) (named : Fields) : Except Failure Command :=
  match session.resolve target name with
  | .ok callable => callable.apply arguments named
  | .error failure => .error failure

/-- An answer is kept under a label. -/
def keep (session : Session) (label : Option String) (answer : Answer) : Session :=
  match label with
  | some label => { session with kept := (label, answer) :: session.kept }
  | none => session

/-- An answer that is null, or a failure. -/
def nothing {α : Type} : Except Failure α → Except Failure Answer :=
  Except.map fun _ => .value .null

/-- One step is taken. -/
def step (session : Session) : Step → Except Failure Answer × Session
  | .call target name arguments named keepAs =>
      match session.command target name arguments named with
      | .error failure => (.error failure, session)
      | .ok command =>
          match session.run command with
          | (.ok answer, session) => (.ok answer, session.keep keepAs answer)
          | failed => failed
  | .onLoad tag raises => session.run (.onLoad (.callback tag raises))
  | .listen event tag =>
      let (reply, stage) := session.stage.perform .memory (.on event (.callback tag none))
      (nothing reply, { session with stage })
  | .fire event payload =>
      let (reply, stage) := session.stage.fire event payload
      (nothing reply, { session with stage })
  | .setLoaded loaded =>
      let stage := session.stage
      (.ok (.value .null),
        { session with stage := { stage with host := { stage.host with isLoaded := loaded } } })
  | .direct name subjects =>
      match Request.ofName? name subjects with
      | some r =>
          let (reply, stage) := session.stage.perform .memory r
          (reply.map .value, { session with stage })
      | none => (.error .badArguments, session)

/-- One step is taken and what it came to is told. -/
def observe (session : Session) (taken : Step) : Outcome × Session :=
  let (answer, after) := session.step taken
  (⟨answer, after.stage.happenings.drop session.stage.happenings.length,
    after.stage.journal.records.drop session.stage.journal.records.length⟩, after)

/-- Steps are taken in turn; one that fails does not end the session. -/
def play (session : Session) : List Step → List Outcome × Session
  | [] => ([], session)
  | taken :: rest =>
      let (outcome, session) := session.observe taken
      let (outcomes, session) := play session rest
      (outcome :: outcomes, session)

end Session

end Cartography
