import Cartography.Proofs.Toolkit.CheckingFirst

/-!
# Operations that subscribe

Two kinds of operations subscribe to events. A removal puts a subscription to errors first, then
one request for each id, and ends the subscription last, however the requests in between have gone.
A bad argument for the ids is found when the subscription is already there. A callback for when the
map has loaded is subscribed for one event only, unless the map has loaded already.
-/

namespace Cartography

variable {σ : Type} (host : Host σ) (stage : Stage σ)

namespace Command

theorem run_silent (script : Script Unit) :
    (silent script).run host stage =
      ((script.run host stage).1.map fun _ => .value .null, (script.run host stage).2) := by
  refine (Script.run_bind host script _ stage).trans ?_
  rcases script.run host stage with ⟨failure | ⟨⟩, after⟩ <;> rfl

/-- An answer with nothing comes without a moment of its own. -/
@[simp] theorem moments_silent (script : Script Unit) :
    (silent script).moments host stage = script.moments host stage := by
  refine (Script.moments_bind host script _ stage).trans ?_
  split <;> exact List.append_nil _

end Command

/-! ### Removals -/

namespace Removal

variable (removal : Removal)

/-- The subscription that a removal starts with. -/
def subscription : Request := .on Event.error (.suppress removal.pattern)

/-- The end of the subscription. -/
def cancellation : Request := .off Event.error (.suppress removal.pattern)

/-- What a removal does while it is subscribed. -/
def batch : Script Unit := Toolkit.removeEach removal.ids removal.request

/-- A removal as a script. -/
def script : Script Answer := Command.silent (Toolkit.suppressing removal.pattern removal.batch)

/-- The requests that ids are removed with: none where the argument for the ids is bad. -/
def requests : List Request :=
  match Identifiers.ofValue removal.ids with
  | .ok ids => ids.map fun id => removal.request (.text id)
  | .error _ => []

/-- How a removal ends where nothing fails: a bad argument is turned down. -/
def settled : Except Failure Unit := (Identifiers.ofValue removal.ids).map fun _ => ()

theorem asksInTurn_batch : removal.batch.AsksInTurn removal.settled removal.requests := by
  simp only [batch, Toolkit.removeEach, settled, requests]
  cases Identifiers.ofValue removal.ids with
  | error failure => exact .finish
  | ok ids =>
      have each := Script.AsksInTurn.forEach (fun id => [removal.request (.text id)])
        (fun id => Script.asksInTurn_request _) ids
      rw [← List.map_eq_flatMap] at each
      exact each

/-- What is run once the host has taken the subscription: the batch, and the end of the
subscription behind it. -/
def subscribedScript : Script Unit :=
  Script.ensuring (do let _ ← Script.request removal.cancellation) removal.batch

theorem script_eq : removal.script = Command.silent
    ((Script.request removal.subscription).bind fun _ => removal.subscribedScript) := rfl

/-- The ways a removal goes, with its moments and what it comes to. If the host does not take the
subscription nothing is tried. Else the batch is run and the subscription ended, and the result is
that of the batch, unless the end fails. -/
inductive Goes : List Moment → Except Failure Answer → Stage σ → Prop
  | refused {failure : Failure} {after : Stage σ}
      (subscribes : stage.perform host removal.subscription = (.error failure, after)) :
      Goes (stage.moments host removal.subscription) (.error failure) after
  | tried {value : Value} {subscribed : Stage σ} {reply : Except Failure Value} {after : Stage σ}
      (subscribes : stage.perform host removal.subscription = (.ok value, subscribed))
      (cancels : (removal.batch.run host subscribed).2.perform host removal.cancellation =
        (reply, after)) :
      Goes (stage.moments host removal.subscription ++
          (removal.batch.moments host subscribed ++
            (removal.batch.run host subscribed).2.moments host removal.cancellation))
        (reply.bind fun _ => (removal.batch.run host subscribed).1.map fun _ => .value .null) after

theorem goes : removal.Goes host stage (removal.script.moments host stage)
    (removal.script.run host stage).1 (removal.script.run host stage).2 := by
  rw [script_eq, Command.run_silent, Command.moments_silent, Script.run_bind, Script.moments_bind,
    Script.run_request, Script.moments_request]
  cases subscribes : stage.perform host removal.subscription with | mk reply subscribed
  cases reply with
  | error failure =>
      rw [List.append_nil]
      exact .refused subscribes
  | ok value =>
      simp only [subscribedScript, Script.run_ensuring, Script.moments_ensuring,
        Script.run_request_unit, Script.moments_request_unit]
      cases cancels : (removal.batch.run host subscribed).2.perform host removal.cancellation with
        | mk reply after
      have went := Goes.tried subscribes cancels
      cases reply with
      | error failure => exact went
      | ok value => exact went

end Removal

theorem Command.script_of_removal (settings : Settings) {command : Command} {removal : Removal}
    (removes : command.removal? settings = some removal) :
    command.script settings = removal.script := by
  cases command with
  | removeLayers layers =>
      obtain rfl := Option.some.inj removes
      rfl
  | removeSources sources =>
      obtain rfl := Option.some.inj removes
      rfl
  | _ => cases removes

theorem Call.script_of_removal (settings : Settings) {call : Call} {removal : Removal}
    (removes : call.removal? settings = some removal) :
    call.script settings = removal.script := by
  rw [removal?] at removes
  split at removes
  · rename_i command made
    rw [script_of_ok settings made, command.script_of_removal settings removes]
  · cases removes

/-! ### Callbacks for when the map has loaded -/

namespace Command

variable (listener : Listener)

theorem run_onLoadScript :
    (onLoadScript listener).run host stage =
      match stage.perform host .loaded with
      | (.error failure, after) => (.error failure, after)
      | (.ok loaded, after) =>
          if loaded.truthy then after.notify .null listener
          else
            ((after.perform host (.once Event.load listener)).1.map fun _ => (),
              (after.perform host (.once Event.load listener)).2) := by
  refine (Script.run_bind host (Script.request .loaded) _ stage).trans ?_
  rw [Script.run_request]
  rcases stage.perform host .loaded with ⟨failure | loaded, after⟩
  · rfl
  · dsimp only
    split
    · rfl
    · exact Script.run_request_unit host _ after

theorem moments_onLoadScript :
    (onLoadScript listener).moments host stage =
      stage.moments host .loaded ++
        match stage.perform host .loaded with
        | (.error _, _) => []
        | (.ok loaded, after) =>
            if loaded.truthy then [.told listener .null]
            else after.moments host (.once Event.load listener) := by
  refine (Script.moments_bind host (Script.request .loaded) _ stage).trans ?_
  rw [Script.moments_request, Script.run_request]
  rcases stage.perform host .loaded with ⟨failure | loaded, after⟩
  · rfl
  · dsimp only
    congr 1
    split
    · rfl
    · exact Script.moments_request_unit host _ after

/-- A callback for when the map has loaded asks whether it has, and subscribes if not. -/
theorem exchanges_onLoadScript :
    ∀ exchange ∈ exchanges ((onLoadScript listener).moments host stage),
      exchange.1 = .loaded ∨ exchange.1 = .once Event.load listener := by
  intro exchange member
  rw [moments_onLoadScript, exchanges_append, Stage.exchanges_moments, List.mem_append,
    List.mem_singleton] at member
  rcases member with rfl | later
  · exact Or.inl rfl
  · split at later
    · cases later
    · split at later
      · cases later
      · rw [Stage.exchanges_moments, List.mem_singleton] at later
        subst later
        exact Or.inr rfl

end Command

end Cartography
