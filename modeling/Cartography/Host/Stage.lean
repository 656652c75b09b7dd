import Cartography.Host.Event
import Cartography.Host.Request
import Cartography.Journal.Logger
import Cartography.Text.Search

/-!
# Hosts and stages

A host is any machine that answers requests: it may change its state, fire events and fail. A
stage is a host at work, with the listeners registered with it, everything that was asked and
called back so far, and the journal.

## Implementation notes

Events are delivered while a request is being answered, in the order in which the host fires
them. A listener that fails stops the delivery and makes the request fail.
-/

namespace Cartography

/-- How a host answers a request. A request for a subscription has no effect if the answer says
so. -/
structure Reaction (σ : Type) where
  state : σ
  events : List (String × Value) := []
  outcome : Except Failure Value := .ok .null
  takesEffect : Bool := true

/-- A map host with states in `σ`. -/
structure Host (σ : Type) where
  react : σ → Request → Reaction σ

/-- A listener that is registered, perhaps for one event only. -/
structure Subscription where
  listener : Listener
  onlyOnce : Bool
  deriving DecidableEq

/-- The subscriptions to each event. -/
abbrev Listeners := List (String × List Subscription)

namespace Listeners

/-- The subscriptions to an event. -/
def subscribed (listeners : Listeners) (event : String) : List Subscription :=
  (listeners.lookup event).getD []

/-- The listeners with other subscriptions to an event. -/
def update (event : String) (subscriptions : List Subscription) : Listeners → Listeners
  | [] => [(event, subscriptions)]
  | entry :: rest =>
      if event == entry.1 then (event, subscriptions) :: rest
      else entry :: update event subscriptions rest

/-- Subscriptions without the latest one of a listener. -/
def withoutLatest (listener : Listener) (subscriptions : List Subscription) :
    List Subscription :=
  (subscriptions.reverse.eraseP fun s => s.listener == listener).reverse

/-- The listeners after a request. -/
def after (listeners : Listeners) : Request → Listeners
  | .on event listener => listeners.update event (listeners.subscribed event ++ [⟨listener, false⟩])
  | .once event listener => listeners.update event (listeners.subscribed event ++ [⟨listener, true⟩])
  | .off event listener => listeners.update event (withoutLatest listener (listeners.subscribed event))
  | _ => listeners

end Listeners

/-- What happens on a stage: a request to the host, or a call of a user's callback, with its
payload if there is one. -/
inductive Happening
  | request (r : Request)
  | callback (tag : String) (payload : Option Value)

/-- A host at work. -/
structure Stage (σ : Type) where
  host : σ
  listeners : Listeners
  unhandled : List Value
  happenings : List Happening
  journal : Journal

namespace Stage

variable {σ : Type}

/-- The logger of the toolkit. -/
def logger : String := Logger.pathOf .service "MapUtils"

/-- A stage with one more happening. -/
def happened (stage : Stage σ) (h : Happening) : Stage σ :=
  { stage with happenings := stage.happenings ++ [h] }

/-- A stage with an entry written to its journal. -/
def written (stage : Stage σ) (path : String) (entry : Entry) : Stage σ :=
  { stage with journal := stage.journal.write path entry }

/-- What the toolkit writes about an error of the host: errors that hold the pattern matter only
for debugging. -/
def errorEntry (pattern message : String) : Entry :=
  if Text.holds message pattern then .plain .debug ("Ignoring host error: " ++ message)
  else .plain .error ("Host error: " ++ message)

/-- A listener is called with a payload; null is as good as none. -/
def notify (stage : Stage σ) (payload : Value) : Listener → Except Failure Unit × Stage σ
  | .suppress pattern =>
      match Event.message? payload with
      | some message => (.ok (), stage.written logger (errorEntry pattern message))
      | none => (.error (.oversizedInteger none), stage)
  | .callback tag raises =>
      let shown := match payload with
        | .null => none
        | payload => some payload
      let stage := stage.happened (.callback tag shown)
      match raises with
      | some message => (.error (.refused message), stage)
      | none => (.ok (), stage)

/-- Listeners are called in turn until one fails. -/
def notifyAll (payload : Value) :
    List Subscription → Stage σ → Except Failure Unit × Stage σ
  | [], stage => (.ok (), stage)
  | s :: rest, stage =>
      match stage.notify payload s.listener with
      | (.ok (), stage) => notifyAll payload rest stage
      | failed => failed

/-- An event is fired. Subscriptions for one event only end before anything is called; an error
that nobody listens for is kept. -/
def fire (stage : Stage σ) (event : String) (payload : Value) :
    Except Failure Unit × Stage σ :=
  match stage.listeners.subscribed event with
  | [] =>
      if event = Event.error then
        (.ok (), { stage with unhandled := stage.unhandled ++ [payload] })
      else (.ok (), stage)
  | subscriptions =>
      let lasting := subscriptions.filter (!·.onlyOnce)
      notifyAll payload subscriptions
        { stage with listeners := stage.listeners.update event lasting }

/-- Events are fired in turn until a listener fails. -/
def fireAll : List (String × Value) → Stage σ → Except Failure Unit × Stage σ
  | [], stage => (.ok (), stage)
  | (event, payload) :: rest, stage =>
      match stage.fire event payload with
      | (.ok (), stage) => fireAll rest stage
      | failed => failed

/-- A request is put to the host. -/
def perform (host : Host σ) (r : Request) (stage : Stage σ) : Except Failure Value × Stage σ :=
  let stage := stage.happened (.request r)
  let reaction := host.react stage.host r
  match fireAll reaction.events { stage with host := reaction.state } with
  | (.error failure, stage) => (.error failure, stage)
  | (.ok (), stage) =>
      match reaction.outcome with
      | .error failure => (.error failure, stage)
      | .ok value =>
          if reaction.takesEffect then
            (.ok value, { stage with listeners := stage.listeners.after r })
          else (.ok value, stage)

end Stage

end Cartography
