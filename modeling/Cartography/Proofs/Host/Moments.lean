import Cartography.Proofs.Host.Requests

/-!
# The moments of a run

A run can be told moment by moment: a request is put and answered, an event is fired, a listener is
told of a payload, an entry is handed to a logger. What was asked and what was written are read off the
moments, whatever the host does meanwhile.

## Implementation notes

Events are fired while a request is being answered. The moments of a request are therefore the
request itself, with the reply that is still to come, and behind it the events, each with those who
are told of it. A listener that fails is the last one to be told.
-/

namespace Cartography

/-- A moment of a run. A request comes with the reply to it, with whether the host heeded it where
it was one for a subscription, and with the listeners there were when it was put. -/
inductive Moment
  | asked (r : Request) (reply : Except Failure Value) (heeded : Bool) (listeners : Listeners)
  | fired (event : String) (payload : Value)
  | told (listener : Listener) (payload : Value)
  | noted (path : String) (entry : Entry)

namespace Moment

/-- The request that is put in a moment, with the reply to it. -/
def exchange? : Moment → Option (Request × Except Failure Value)
  | asked r reply _ _ => some (r, reply)
  | _ => none

/-- The entry that is handed to a logger in a moment, with the name of the logger. The toolkit's own
listener hands one over for every payload with a message. -/
def entry? : Moment → Option (String × Entry)
  | noted path entry => some (path, entry)
  | told (.suppress pattern) payload =>
      (Event.message? payload).map fun message =>
        (Stage.logger, Stage.errorEntry pattern message)
  | _ => none

end Moment

/-- The requests that are put in some moments, with the replies to them. -/
def exchanges (moments : List Moment) : List (Request × Except Failure Value) :=
  moments.filterMap Moment.exchange?

/-- A journal with the entries of some moments written to it in turn. -/
def Journal.after (journal : Journal) (moments : List Moment) : Journal :=
  (moments.filterMap Moment.entry?).foldl (fun journal e => journal.write e.1 e.2) journal

@[simp] theorem exchanges_nil : exchanges [] = [] := rfl

@[simp] theorem exchanges_asked (r : Request) (reply : Except Failure Value) (heeded : Bool)
    (listeners : Listeners) (moments : List Moment) :
    exchanges (.asked r reply heeded listeners :: moments) = (r, reply) :: exchanges moments := rfl

@[simp] theorem exchanges_fired (event : String) (payload : Value) (moments : List Moment) :
    exchanges (.fired event payload :: moments) = exchanges moments := rfl

@[simp] theorem exchanges_told (listener : Listener) (payload : Value) (moments : List Moment) :
    exchanges (.told listener payload :: moments) = exchanges moments := rfl

@[simp] theorem exchanges_noted (path : String) (entry : Entry) (moments : List Moment) :
    exchanges (.noted path entry :: moments) = exchanges moments := rfl

@[simp] theorem exchanges_append (moments later : List Moment) :
    exchanges (moments ++ later) = exchanges moments ++ exchanges later :=
  List.filterMap_append

theorem Journal.after_append (journal : Journal) (moments later : List Moment) :
    journal.after (moments ++ later) = (journal.after moments).after later := by
  rw [after, List.filterMap_append, List.foldl_append]
  rfl

theorem Journal.after_cons (journal : Journal) (moment : Moment) (later : List Moment) :
    journal.after (moment :: later) = (journal.after [moment]).after later :=
  journal.after_append [moment] later

theorem Journal.after_fired (journal : Journal) (event : String) (payload : Value)
    (later : List Moment) : journal.after (.fired event payload :: later) = journal.after later :=
  rfl

/-- How a listener takes it to be told of a payload. -/
def Listener.reply (payload : Value) : Listener → Except Failure Unit
  | .suppress _ =>
      match Event.message? payload with
      | some _ => .ok ()
      | none => .error (.oversizedInteger none)
  | .callback _ raises =>
      match raises with
      | some message => .error (.refused message)
      | none => .ok ()

namespace Stage

variable {σ : Type}

/-! ### Who is told -/

/-- Subscriptions that are told of a payload, up to the first one that fails. -/
def tellings (payload : Value) : List Subscription → List Moment
  | [] => []
  | s :: rest =>
      .told s.listener payload ::
        match s.listener.reply payload with
        | .ok () => tellings payload rest
        | .error _ => []

/-- Events that are fired in turn until a listener fails, and who is told of them. -/
def tellingsAll : List (String × Value) → Stage σ → List Moment
  | [], _ => []
  | (event, payload) :: rest, stage =>
      .fired event payload ::
        (tellings payload (stage.listeners.subscribed event) ++
          match stage.fire event payload with
          | (.ok (), stage) => tellingsAll rest stage
          | (.error _, _) => [])

/-- The moments of a request: it is put, and the host fires events for it. -/
def moments (host : Host σ) (r : Request) (stage : Stage σ) : List Moment :=
  let asked := stage.happened (.request r)
  let reaction := host.react asked.host r
  .asked r (stage.perform host r).1 reaction.takesEffect stage.listeners ::
    tellingsAll reaction.events { asked with host := reaction.state }

@[simp] theorem exchanges_tellings (payload : Value) (subscriptions : List Subscription) :
    exchanges (tellings payload subscriptions) = [] := by
  induction subscriptions with
  | nil => rfl
  | cons s rest ih =>
      rw [tellings]
      split <;> simp [ih]

@[simp] theorem exchanges_tellingsAll (events : List (String × Value)) (stage : Stage σ) :
    exchanges (tellingsAll events stage) = [] := by
  induction events generalizing stage with
  | nil => rfl
  | cons fired rest ih =>
      rw [tellingsAll]
      split <;> simp [ih]

@[simp] theorem exchanges_moments (host : Host σ) (r : Request) (stage : Stage σ) :
    exchanges (stage.moments host r) = [(r, (stage.perform host r).1)] := by
  simp [moments]

/-! ### What is written meanwhile -/

/-- How a listener takes it to be told of a payload does not depend on what else there is. -/
theorem notify_fst (stage : Stage σ) (payload : Value) (listener : Listener) :
    (stage.notify payload listener).1 = listener.reply payload := by
  cases listener with
  | suppress pattern =>
      rw [notify, Listener.reply]
      cases Event.message? payload <;> rfl
  | callback tag raises => cases raises <;> rfl

theorem journal_notify (stage : Stage σ) (payload : Value) (listener : Listener) :
    (stage.notify payload listener).2.journal = stage.journal.after [.told listener payload] := by
  cases listener with
  | suppress pattern =>
      rw [notify]
      cases found : Event.message? payload <;> simp [Journal.after, Moment.entry?, found, written]
  | callback tag raises => cases raises <;> rfl

theorem journal_notifyAll (payload : Value) (subscriptions : List Subscription)
    (stage : Stage σ) :
    (notifyAll payload subscriptions stage).2.journal =
      stage.journal.after (tellings payload subscriptions) := by
  induction subscriptions generalizing stage with
  | nil => rfl
  | cons s rest ih =>
      have told := journal_notify stage payload s.listener
      have reply := notify_fst stage payload s.listener
      rw [notifyAll, tellings, ← reply, Journal.after_cons, ← told]
      rcases stage.notify payload s.listener with ⟨failure | ⟨⟩, after⟩
      · rfl
      · exact ih after

theorem journal_fire (stage : Stage σ) (event : String) (payload : Value) :
    (stage.fire event payload).2.journal =
      stage.journal.after (tellings payload (stage.listeners.subscribed event)) := by
  rw [fire]
  split
  · rename_i alone
    rw [alone]
    split <;> rfl
  · exact journal_notifyAll payload _ _

theorem journal_fireAll (events : List (String × Value)) (stage : Stage σ) :
    (fireAll events stage).2.journal = stage.journal.after (tellingsAll events stage) := by
  induction events generalizing stage with
  | nil => rfl
  | cons fired rest ih =>
      obtain ⟨event, payload⟩ := fired
      rw [fireAll, tellingsAll, Journal.after_fired, Journal.after_append, ← journal_fire]
      rcases stage.fire event payload with ⟨failure | ⟨⟩, after⟩
      · rfl
      · exact ih after

theorem journal_perform (host : Host σ) (r : Request) (stage : Stage σ) :
    (stage.perform host r).2.journal = stage.journal.after (stage.moments host r) := by
  have told := journal_fireAll (host.react (stage.happened (.request r)).host r).events
    { stage.happened (.request r) with
      host := (host.react (stage.happened (.request r)).host r).state }
  rw [moments, Journal.after_cons]
  refine Eq.trans ?_ told
  simp only [perform]
  split <;> rename_i fired <;> rw [fired]
  split
  · rfl
  · split <;> rfl

end Stage

namespace Script

variable {σ α β : Type}

/-- The moments of a run. -/
def moments (host : Host σ) : Script α → Stage σ → List Moment
  | .finish _, _ => []
  | .ask r next, stage =>
      let (reply, after) := stage.perform host r
      stage.moments host r ++ (next reply).moments host after
  | .note path entry next, stage => .noted path entry :: next.moments host (stage.written path entry)
  | .call listener next, stage =>
      let (reply, after) := stage.notify .null listener
      .told listener .null :: (next reply).moments host after

theorem run_request (host : Host σ) (r : Request) (stage : Stage σ) :
    (request r).run host stage = stage.perform host r := rfl

@[simp] theorem moments_request (host : Host σ) (r : Request) (stage : Stage σ) :
    (request r).moments host stage = stage.moments host r :=
  List.append_nil _

/-- What holds of every reply of a host holds of the replies in a run. -/
theorem reply_of_mem (P : Except Failure Value → Prop) {host : Host σ}
    (replies : ∀ stage r, P (Stage.perform host r stage).1) (script : Script α) (stage : Stage σ) :
    ∀ exchange ∈ exchanges (script.moments host stage), P exchange.2 := by
  induction script generalizing stage with
  | finish result => simp [moments]
  | note path entry next ih => exact ih _
  | call listener next ih => exact ih _ _
  | ask r next ih =>
      intro exchange member
      simp only [moments, exchanges_append, Stage.exchanges_moments, List.mem_append,
        List.mem_singleton] at member
      rcases member with rfl | later
      · exact replies stage r
      · exact ih _ _ exchange later

/-- What a run asks of a host is what is asked in its moments. -/
theorem requests_run (host : Host σ) (script : Script α) (stage : Stage σ) :
    (script.run host stage).2.requests =
      stage.requests ++ (exchanges (script.moments host stage)).map (·.1) := by
  induction script generalizing stage with
  | finish result => simp [run, moments]
  | ask r next ih =>
      rw [run, moments, ih, Stage.requests_perform]
      simp
  | note path entry next ih =>
      rw [run, moments, ih]
      simp
  | call listener next ih =>
      rw [run, moments, ih, Stage.requests_notify]
      simp

/-- What a run writes is what is handed to loggers in its moments. -/
theorem journal_run (host : Host σ) (script : Script α) (stage : Stage σ) :
    (script.run host stage).2.journal = stage.journal.after (script.moments host stage) := by
  induction script generalizing stage with
  | finish result => rfl
  | ask r next ih => rw [run, moments, ih, Journal.after_append, Stage.journal_perform]
  | note path entry next ih =>
      rw [run, moments, ih, Journal.after_cons]
      rfl
  | call listener next ih => rw [run, moments, ih, Journal.after_cons, Stage.journal_notify]

/-- A script in front of another one has its moments first. -/
theorem moments_bind (host : Host σ) (script : Script α) (f : α → Script β) (stage : Stage σ) :
    (script.bind f).moments host stage = script.moments host stage ++
      match script.run host stage with
      | (.ok a, after) => (f a).moments host after
      | (.error _, _) => [] := by
  induction script generalizing stage with
  | finish result => cases result <;> rfl
  | ask r next ih =>
      simp only [bind, moments, run, List.append_assoc]
      rw [ih]
  | note path entry next ih =>
      simp only [bind, moments, run, List.cons_append]
      rw [ih]
  | call listener next ih =>
      simp only [bind, moments, run, List.cons_append]
      rw [ih]

theorem run_request_unit (host : Host σ) (r : Request) (stage : Stage σ) :
    (do let _ ← request r).run host stage =
      ((stage.perform host r).1.map fun _ => (), (stage.perform host r).2) := by
  refine (run_bind host (request r) _ stage).trans ?_
  rw [run_request]
  rcases stage.perform host r with ⟨failure | value, after⟩ <;> rfl

@[simp] theorem moments_request_unit (host : Host σ) (r : Request) (stage : Stage σ) :
    (do let _ ← request r).moments host stage = stage.moments host r := by
  refine (moments_bind host (request r) _ stage).trans ?_
  rw [moments_request]
  split <;> exact List.append_nil _

/-- A last part is run behind a script, however that ends. A failure of the last part counts more. -/
theorem run_ensuring (host : Host σ) (last : Script Unit) (script : Script α) (stage : Stage σ) :
    (ensuring last script).run host stage =
      match last.run host (script.run host stage).2 with
      | (.ok (), after) => ((script.run host stage).1, after)
      | (.error failure, after) => (.error failure, after) := by
  induction script generalizing stage with
  | finish result =>
      rw [ensuring, run_bind, run]
      rcases last.run host stage with ⟨failure | ⟨⟩, after⟩ <;> rfl
  | ask r next ih => exact ih _ _
  | note path entry next ih => exact ih _
  | call listener next ih => exact ih _ _

theorem moments_ensuring (host : Host σ) (last : Script Unit) (script : Script α)
    (stage : Stage σ) :
    (ensuring last script).moments host stage =
      script.moments host stage ++ last.moments host (script.run host stage).2 := by
  induction script generalizing stage with
  | finish result =>
      rw [ensuring, moments_bind, moments, run]
      rcases last.run host stage with ⟨failure | ⟨⟩, after⟩ <;> simp [moments]
  | ask r next ih =>
      simp only [ensuring, moments, run, List.append_assoc]
      rw [ih]
  | note path entry next ih =>
      simp only [ensuring, moments, run, List.cons_append]
      rw [ih]
  | call listener next ih =>
      simp only [ensuring, moments, run, List.cons_append]
      rw [ih]

end Script

end Cartography
