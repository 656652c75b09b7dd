import Cartography.Proofs.Host.Moments

/-!
# The journal is not read

Nothing that happens on a stage depends on what has been written. Two stages that differ in their
journals at most answer alike, ask alike and stay alike, and the moments of a run on them are the
same.

## Implementation notes

What is written in a run is what is handed to loggers in its moments (`Script.journal_run`). That
the moments are the same leaves two runs with the same entries; which of these become records is up
to the journals.
-/

namespace Cartography

namespace Stage

variable {σ α : Type}

/-- Two stages are alike if they differ in their journals at most. -/
structure Alike (s t : Stage σ) : Prop where
  host : s.host = t.host
  listeners : s.listeners = t.listeners
  unhandled : s.unhandled = t.unhandled
  happenings : s.happenings = t.happenings

/-- The same answer is given, and the stages after it are alike. -/
inductive EndAlike : α × Stage σ → α × Stage σ → Prop
  | mk (answer : α) {s t : Stage σ} (alike : s.Alike t) : EndAlike (answer, s) (answer, t)

namespace EndAlike

variable {a b : α × Stage σ}

theorem answer_eq (ends : EndAlike a b) : a.1 = b.1 := by
  cases ends
  rfl

theorem alike (ends : EndAlike a b) : a.2.Alike b.2 := by
  cases ends
  assumption

end EndAlike

namespace Alike

variable {s t : Stage σ}

theorem happened (alike : s.Alike t) (h : Happening) : (s.happened h).Alike (t.happened h) :=
  ⟨alike.host, alike.listeners, alike.unhandled, congrArg (· ++ [h]) alike.happenings⟩

theorem written (alike : s.Alike t) (path : String) (entry : Entry) :
    (s.written path entry).Alike (t.written path entry) :=
  ⟨alike.host, alike.listeners, alike.unhandled, alike.happenings⟩

/-- The host goes on to another state. -/
theorem moved (alike : s.Alike t) (state : σ) :
    ({ s with host := state } : Stage σ).Alike { t with host := state } :=
  ⟨rfl, alike.listeners, alike.unhandled, alike.happenings⟩

/-- The listeners become other ones. -/
theorem relisted (alike : s.Alike t) (listeners : Listeners) :
    ({ s with listeners } : Stage σ).Alike { t with listeners } :=
  ⟨alike.host, rfl, alike.unhandled, alike.happenings⟩

/-- A payload is kept that nobody listened for. -/
theorem unheard (alike : s.Alike t) (payload : Value) :
    ({ s with unhandled := s.unhandled ++ [payload] } : Stage σ).Alike
      { t with unhandled := t.unhandled ++ [payload] } :=
  ⟨alike.host, alike.listeners, congrArg (· ++ [payload]) alike.unhandled, alike.happenings⟩

theorem notify (alike : s.Alike t) (payload : Value) (listener : Listener) :
    EndAlike (s.notify payload listener) (t.notify payload listener) := by
  cases listener with
  | suppress pattern =>
      rw [Stage.notify, Stage.notify]
      cases Event.message? payload with
      | none => exact .mk _ alike
      | some message => exact .mk _ (alike.written _ _)
  | callback tag raises => cases raises <;> exact .mk _ (alike.happened _)

theorem notifyAll (alike : s.Alike t) (payload : Value) (subscriptions : List Subscription) :
    EndAlike (notifyAll payload subscriptions s) (notifyAll payload subscriptions t) := by
  induction subscriptions generalizing s t with
  | nil => exact .mk _ alike
  | cons subscription rest ih =>
      rw [Stage.notifyAll, Stage.notifyAll]
      have told := alike.notify payload subscription.listener
      generalize s.notify payload subscription.listener = first at told
      generalize t.notify payload subscription.listener = second at told
      obtain ⟨failure | ⟨⟩, told⟩ := told
      · exact .mk _ told
      · exact ih told

theorem fire (alike : s.Alike t) (event : String) (payload : Value) :
    EndAlike (s.fire event payload) (t.fire event payload) := by
  have same : t.listeners.subscribed event = s.listeners.subscribed event := by
    rw [alike.listeners]
  rw [Stage.fire, Stage.fire, same]
  cases s.listeners.subscribed event with
  | nil =>
      dsimp only
      split
      · exact .mk _ (alike.unheard payload)
      · exact .mk _ alike
  | cons subscription rest =>
      rw [alike.listeners]
      exact notifyAll (alike.relisted _) payload _

theorem fireAll (alike : s.Alike t) (events : List (String × Value)) :
    EndAlike (fireAll events s) (fireAll events t) := by
  induction events generalizing s t with
  | nil => exact .mk _ alike
  | cons fired rest ih =>
      obtain ⟨event, payload⟩ := fired
      rw [Stage.fireAll, Stage.fireAll]
      have told := alike.fire event payload
      generalize s.fire event payload = first at told
      generalize t.fire event payload = second at told
      obtain ⟨failure | ⟨⟩, told⟩ := told
      · exact .mk _ told
      · exact ih told

theorem perform (alike : s.Alike t) (host : Host σ) (r : Request) :
    EndAlike (s.perform host r) (t.perform host r) := by
  have asked := alike.happened (.request r)
  simp only [Stage.perform, ← asked.host]
  generalize host.react (s.happened (.request r)).host r = reaction
  have fired := (asked.moved reaction.state).fireAll reaction.events
  generalize Stage.fireAll reaction.events { s.happened (.request r) with host := reaction.state } =
    first at fired
  generalize Stage.fireAll reaction.events { t.happened (.request r) with host := reaction.state } =
    second at fired
  obtain ⟨failure | ⟨⟩, fired⟩ := fired
  · exact .mk _ fired
  · dsimp only
    split
    · exact .mk _ fired
    · split
      · rw [← fired.listeners]
        exact .mk _ (fired.relisted _)
      · exact .mk _ fired

theorem tellingsAll_eq (alike : s.Alike t) (events : List (String × Value)) :
    tellingsAll events s = tellingsAll events t := by
  induction events generalizing s t with
  | nil => rfl
  | cons fired rest ih =>
      obtain ⟨event, payload⟩ := fired
      rw [tellingsAll, tellingsAll, alike.listeners]
      have told := alike.fire event payload
      generalize s.fire event payload = first at told
      generalize t.fire event payload = second at told
      obtain ⟨failure | ⟨⟩, told⟩ := told
      · rfl
      · simp only [ih told]

theorem moments_eq (alike : s.Alike t) (host : Host σ) (r : Request) :
    s.moments host r = t.moments host r := by
  have asked := alike.happened (.request r)
  simp only [moments, (alike.perform host r).answer_eq, alike.listeners, ← asked.host]
  rw [(asked.moved _).tellingsAll_eq]

end Alike

end Stage

namespace Script

variable {σ α : Type} (host : Host σ)

/-- A run gives the same answer on stages that are alike, and leaves them alike. -/
theorem run_alike (script : Script α) {s t : Stage σ} (alike : s.Alike t) :
    Stage.EndAlike (script.run host s) (script.run host t) := by
  induction script generalizing s t with
  | finish result => exact .mk _ alike
  | ask r next ih =>
      rw [run, run]
      have asked := alike.perform host r
      generalize s.perform host r = first at asked
      generalize t.perform host r = second at asked
      obtain ⟨reply, asked⟩ := asked
      exact ih reply asked
  | note path entry next ih => exact ih (alike.written path entry)
  | call listener next ih =>
      rw [run, run]
      have told := alike.notify .null listener
      generalize s.notify .null listener = first at told
      generalize t.notify .null listener = second at told
      obtain ⟨reply, told⟩ := told
      exact ih reply told

/-- A run has the same moments on stages that are alike. -/
theorem moments_alike (script : Script α) {s t : Stage σ} (alike : s.Alike t) :
    script.moments host s = script.moments host t := by
  induction script generalizing s t with
  | finish result => rfl
  | ask r next ih =>
      rw [moments, moments, alike.moments_eq]
      have asked := alike.perform host r
      generalize s.perform host r = first at asked
      generalize t.perform host r = second at asked
      obtain ⟨reply, asked⟩ := asked
      exact congrArg (t.moments host r ++ ·) (ih reply asked)
  | note path entry next ih => exact congrArg (_ :: ·) (ih (alike.written path entry))
  | call listener next ih =>
      rw [moments, moments]
      have told := alike.notify .null listener
      generalize s.notify .null listener = first at told
      generalize t.notify .null listener = second at told
      obtain ⟨reply, told⟩ := told
      exact congrArg (_ :: ·) (ih reply told)

end Script

end Cartography
