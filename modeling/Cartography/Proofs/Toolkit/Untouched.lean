import Cartography.Proofs.Host.Requests
import Cartography.Proofs.Toolkit.Registering
import Cartography.Proofs.Toolkit.Subscribing

/-!
# Breaches leave the host untouched

An operation that is turned down for its arguments has changed nothing on the map. An operation
that adds a layer or a source asks for a single thing, and asks for it exactly when all is well
with its arguments.
-/

namespace Cartography

variable {σ : Type}

/-- A host has failures of its own, but none of them is a breach. -/
def Host.NeverBreaches (host : Host σ) : Prop :=
  ∀ state r b, (host.react state r).outcome ≠ .error (.breach b)

/-! ### Where the failure of a request comes from -/

namespace Stage

variable {failure : Failure}

theorem failure_of_notifyAll {payload : Value} {subscriptions : List Subscription}
    {stage : Stage σ} (failed : (notifyAll payload subscriptions stage).1 = .error failure) :
    ∃ listener : Listener, listener.reply payload = .error failure := by
  induction subscriptions generalizing stage with
  | nil => cases failed
  | cons s rest ih =>
      rw [notifyAll] at failed
      split at failed
      · exact ih failed
      · refine ⟨s.listener, ?_⟩
        rw [← notify_fst stage]
        exact failed

theorem failure_of_fire {event : String} {payload : Value} {stage : Stage σ}
    (failed : (stage.fire event payload).1 = .error failure) :
    ∃ listener : Listener, listener.reply payload = .error failure := by
  rw [fire] at failed
  split at failed
  · split at failed <;> cases failed
  · exact failure_of_notifyAll failed

theorem failure_of_fireAll {events : List (String × Value)} {stage : Stage σ}
    (failed : (fireAll events stage).1 = .error failure) :
    ∃ (listener : Listener) (payload : Value), listener.reply payload = .error failure := by
  induction events generalizing stage with
  | nil => cases failed
  | cons fired rest ih =>
      obtain ⟨event, payload⟩ := fired
      rw [fireAll] at failed
      split at failed
      · exact ih failed
      · obtain ⟨listener, replied⟩ := failure_of_fire failed
        exact ⟨listener, payload, replied⟩

/-- A request fails because a listener does that is told of an event, or by itself. -/
theorem failure_of_perform {host : Host σ} {r : Request} {stage : Stage σ}
    (failed : (stage.perform host r).1 = .error failure) :
    (∃ (listener : Listener) (payload : Value), listener.reply payload = .error failure) ∨
      (host.react stage.host r).outcome = .error failure := by
  simp only [perform] at failed
  split at failed
  · rename_i fired
    obtain rfl := Except.error.inj failed
    exact Or.inl (failure_of_fireAll (congrArg Prod.fst fired))
  · split at failed
    · rename_i refused
      obtain rfl := Except.error.inj failed
      exact Or.inr refused
    · split at failed <;> cases failed

end Stage

theorem Listener.reply_ne_breach (listener : Listener) (payload : Value) (b : Breach) :
    listener.reply payload ≠ .error (.breach b) := by
  intro replied
  cases listener with
  | suppress pattern =>
      rw [reply] at replied
      split at replied <;> cases replied
  | callback tag raises => cases raises <;> cases replied

namespace Host.NeverBreaches

variable {host : Host σ} {α : Type}

theorem perform (never : host.NeverBreaches) (stage : Stage σ) (r : Request) (b : Breach) :
    (stage.perform host r).1 ≠ .error (.breach b) := by
  intro failed
  rcases Stage.failure_of_perform failed with ⟨listener, payload, replied⟩ | refused
  · exact listener.reply_ne_breach payload b replied
  · exact never stage.host r b refused

/-- No reply in a run is a breach. -/
theorem exchanges (never : host.NeverBreaches) (script : Script α) (stage : Stage σ) :
    ∀ exchange ∈ exchanges (script.moments host stage), ∀ b, exchange.2 ≠ .error (.breach b) :=
  Script.reply_of_mem (fun reply => ∀ b, reply ≠ .error (.breach b)) never.perform script stage

end Host.NeverBreaches

/-! ### Operations one by one -/

variable (host : Host σ) (stage : Stage σ)

/-- What is asked in the run of a script. -/
def Script.asked {α : Type} (script : Script α) : List Request :=
  (exchanges (script.moments host stage)).map (·.1)

/-- A run that ends in a breach asks for nothing that changes the map. -/
def Script.Untouching {α : Type} (script : Script α) : Prop :=
  ∀ b, (script.run host stage).1 = .error (.breach b) →
    ∀ r ∈ script.asked host stage, r.isMutation = false

section NeverBreaches

variable {host} (never : host.NeverBreaches)
include never

/-- Where arguments are checked first, a breach comes before every request. -/
theorem Script.ChecksFirst.untouching {α : Type} {allowed : List Request → Prop}
    {script : Script α} (checks : script.ChecksFirst allowed) : script.Untouching host stage := by
  intro b breached
  cases checks with
  | turnsDown asks =>
      rw [asked, (asks.inTurn host stage).of_nil.1]
      exact fun r member => absurd member List.not_mem_nil
  | carriesOut fits asks =>
      rcases (asks.inTurn host stage).ended with ⟨-, ended⟩ | ⟨r, failure, member, ended⟩
      · cases breached.symm.trans ended
      · obtain rfl := Except.error.inj (breached.symm.trans ended)
        exact absurd rfl (never.exchanges script stage _ member b)

/-- Where the batch of a removal ends in a breach, its ids are bad and it has asked for nothing. -/
theorem Removal.nothing_tried (removal : Removal) {b : Breach} {answer : Unit → Answer}
    (breached : (removal.batch.run host stage).1.map answer = .error (.breach b)) :
    exchanges (removal.batch.moments host stage) = [] := by
  have turn := removal.asksInTurn_batch.inTurn host stage
  rcases turn.ended with ⟨asked, ended⟩ | ⟨r, failure, member, ended⟩
  · rw [ended, settled] at breached
    rw [requests] at asked
    cases given : Identifiers.ofValue removal.ids with
    | error failure =>
        rw [given] at asked
        exact List.map_eq_nil_iff.mp asked
    | ok ids =>
        rw [given] at breached
        cases breached
  · rw [ended] at breached
    obtain rfl := Except.error.inj breached
    exact absurd rfl (never.exchanges removal.batch stage _ member b)

/-- The ids of a removal are checked before any of them is removed. -/
theorem Removal.untouching (removal : Removal) : removal.script.Untouching host stage := by
  intro b breached
  rw [Script.asked]
  have goes := removal.goes host stage
  generalize removal.script.moments host stage = moments at goes
  generalize (removal.script.run host stage).1 = result at goes breached
  generalize (removal.script.run host stage).2 = after at goes
  cases goes with
  | refused subscribes =>
      refine absurd ?_ (never.perform stage removal.subscription b)
      rw [subscribes]
      exact congrArg Except.error (Except.error.inj breached)
  | @tried value subscribed reply after subscribes cancels =>
      cases reply with
      | error failure =>
          refine absurd ?_ (never.perform (removal.batch.run host subscribed).2
            removal.cancellation b)
          rw [cancels]
          exact congrArg Except.error (Except.error.inj breached)
      | ok reply =>
          have nothing := removal.nothing_tried subscribed never breached
          simp [nothing, Request.isMutation, subscription, cancellation]

omit never in
theorem Command.untouching_onLoad (settings : Settings) (listener : Listener) :
    ((Command.onLoad listener).script settings).Untouching host stage := by
  intro b _ r member
  obtain ⟨exchange, listed, rfl⟩ := List.mem_map.mp member
  rw [Command.script, Command.moments_silent] at listed
  rcases Command.exchanges_onLoadScript host stage listener exchange listed with asks | asks <;>
    rw [asks] <;> rfl

theorem Call.untouching (settings : Settings) (call : Call) :
    (call.script settings).Untouching host stage := by
  rcases call.checksFirst settings with checks | ⟨removal, removes⟩ | ⟨tag, raises, rfl⟩
  · exact checks.untouching stage never
  · rw [call.script_of_removal settings removes]
    exact removal.untouching stage never
  · exact Command.untouching_onLoad stage settings _

end NeverBreaches

/-- A script that checks first and puts one request at most puts it unless its arguments are bad. -/
theorem Script.ChecksFirst.asks_once {α : Type} {script : Script α}
    (checks : script.ChecksFirst SingleRequest) (host : Host σ) (stage : Stage σ) :
    (script.asked host stage).length ≤ 1 ∧
      ((∃ a, (script.run host stage).1 = .ok a) → (script.asked host stage).length = 1) ∧
      ((∀ r, stage.Accepts host r) → (∃ failure, (script.run host stage).1 = .error failure) →
        script.asked host stage = []) := by
  cases checks with
  | turnsDown asks =>
      obtain ⟨nothing, failed⟩ := (asks.inTurn host stage).of_nil
      rw [asked, nothing, failed]
      simp
  | carriesOut fits asks =>
      obtain ⟨r, rfl, -⟩ := fits
      have single : (script.asked host stage).length = 1 := by
        have turn := asks.inTurn host stage
        rw [asked, List.length_map]
        generalize exchanges (script.moments host stage) = listed at turn
        generalize (script.run host stage).1 = result at turn
        cases turn with
        | answered later => rw [later.of_nil.1]; rfl
        | failed => rfl
      refine ⟨Nat.le_of_eq single, fun _ => single, ?_⟩
      rintro accepts ⟨failure, failed⟩
      obtain ⟨journal, ran⟩ := asks.run_single host stage
      obtain ⟨value, accepted⟩ := accepts r journal
      rw [ran, accepted] at failed
      cases failed

/-- **Breaches come before anything is changed.** Whatever is called with whatever arguments on any
host that never breaches by itself: where the call ends in a breach, nothing was asked that changes
the map. A call that adds a layer or a source asks for at most one thing in all, for exactly one
where it returns, and for nothing where it fails on a host that accepts every request. -/
theorem Call.untouched_by_breach (settings : Settings) (call : Call) {σ : Type} (host : Host σ)
    (stage : Stage σ) :
    ∃ asked,
      ((call.script settings).run host stage).2.requests = stage.requests ++ asked ∧
      (host.NeverBreaches →
        (∃ b, ((call.script settings).run host stage).1 = .error (.breach b)) →
          ∀ r ∈ asked, r.isMutation = false) ∧
      (call.adds = true →
        asked.length ≤ 1 ∧
        ((∃ answer, ((call.script settings).run host stage).1 = .ok answer) → asked.length = 1) ∧
        ((∀ r, stage.Accepts host r) →
          (∃ failure, ((call.script settings).run host stage).1 = .error failure) →
            asked = [])) := by
  refine ⟨(call.script settings).asked host stage, Script.requests_run host _ stage, ?_, ?_⟩
  · rintro never ⟨b, breached⟩
    exact call.untouching stage never settings b breached
  · intro adding
    exact (call.checksFirst_of_adds settings adding).asks_once host stage

/-- A number is no id: no layer is removed on account of it, though the host is asked for a
subscription. A vector source is added with a single request. -/
theorem Call.number_removes_nothing :
    (∃ b, (((onToolkit "remove_layer" [.integer 5] []).script .standard).run .idle .idle).1 =
        .error (.breach b)) ∧
      (∀ r ∈ (((onToolkit "remove_layer" [.integer 5] []).script .standard).run
        .idle .idle).2.requests, r.isMutation = false) ∧
      (((onToolkit "add_vector" [.text "roads", .text "mapbox://user.roads"] []).script
        .standard).run .idle .idle).2.requests.length = 1 := by
  have never : Host.idle.NeverBreaches := by
    intro state r b failed
    cases failed
  obtain ⟨removing, put, untouched, -⟩ :=
    untouched_by_breach .standard (.onToolkit "remove_layer" [.integer 5] []) .idle .idle
  obtain ⟨adding, added, -, once⟩ := untouched_by_breach .standard
    (.onToolkit "add_vector" [.text "roads", .text "mapbox://user.roads"] []) .idle .idle
  have breached : ∃ b, (((onToolkit "remove_layer" [.integer 5] []).script .standard).run
      .idle .idle).1 = .error (.breach b) := ⟨.notIdentifiers "5", rfl⟩
  refine ⟨breached, ?_, ?_⟩
  · rw [put]
    exact untouched never breached
  · rw [added]
    exact (once rfl).2.1 ⟨.handle (.text "roads"), rfl⟩

end Cartography
