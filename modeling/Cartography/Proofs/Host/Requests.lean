import Cartography.Script

/-!
# The requests of a run

What a run asks of a host is read off the stage, in order. Listeners that are called meanwhile
add nothing to it, whatever events the host fires, so that every request counts once.
-/

namespace Cartography

/-- The request that a happening is, if it is one. -/
def Happening.request? : Happening → Option Request
  | .request r => some r
  | .callback _ _ => none

/-- A host of one state, which answers every request with null and fires nothing. -/
def Host.idle : Host Unit := ⟨fun _ _ => { state := () }⟩

namespace Stage

variable {σ : Type}

/-- Everything that was asked of the host so far. -/
def requests (stage : Stage σ) : List Request := stage.happenings.filterMap Happening.request?

/-- A stage on which nothing has happened. -/
def idle : Stage Unit := ⟨(), [], [], [], .empty⟩

@[simp] theorem requests_written (stage : Stage σ) (path : String) (entry : Entry) :
    (stage.written path entry).requests = stage.requests := rfl

theorem requests_request (stage : Stage σ) (r : Request) :
    (stage.happened (.request r)).requests = stage.requests ++ [r] := by
  simp [requests, happened, Happening.request?]

theorem requests_notify (stage : Stage σ) (payload : Value) (listener : Listener) :
    (stage.notify payload listener).2.requests = stage.requests := by
  cases listener with
  | suppress pattern =>
      rw [notify]
      split <;> rfl
  | callback tag raises =>
      cases raises <;> simp [notify, requests, happened, Happening.request?]

theorem requests_notifyAll (payload : Value) (subscriptions : List Subscription)
    (stage : Stage σ) : (notifyAll payload subscriptions stage).2.requests = stage.requests := by
  induction subscriptions generalizing stage with
  | nil => rfl
  | cons s rest ih =>
      have told := requests_notify stage payload s.listener
      rw [notifyAll]
      split
      · rename_i after noted
        rw [ih, ← told, noted]
      · exact told

theorem requests_fire (stage : Stage σ) (event : String) (payload : Value) :
    (stage.fire event payload).2.requests = stage.requests := by
  rw [fire]
  split
  · split <;> rfl
  · exact requests_notifyAll payload _ _

theorem requests_fireAll (events : List (String × Value)) (stage : Stage σ) :
    (fireAll events stage).2.requests = stage.requests := by
  induction events generalizing stage with
  | nil => rfl
  | cons fired rest ih =>
      obtain ⟨event, payload⟩ := fired
      have told := requests_fire stage event payload
      rw [fireAll]
      split
      · rename_i after noted
        rw [ih, ← told, noted]
      · exact told

/-- Whatever a host does about a request, nothing else is asked of it meanwhile. -/
theorem requests_perform (host : Host σ) (r : Request) (stage : Stage σ) :
    (stage.perform host r).2.requests = stage.requests ++ [r] := by
  have told := requests_fireAll (host.react (stage.happened (.request r)).host r).events
    { stage.happened (.request r) with
      host := (host.react (stage.happened (.request r)).host r).state }
  have asked := told.trans (requests_request stage r)
  simp only [perform]
  split <;> rename_i fired <;> rw [fired] at asked
  · exact asked
  · split
    · exact asked
    · split <;> exact asked

end Stage

end Cartography
