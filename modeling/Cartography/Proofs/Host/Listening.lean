import Cartography.Proofs.Host.Asking

/-!
# Listeners through a run

Events may be fired at every request, and yet the listeners stay what they are: only a request for
a subscription changes them. What ends by itself is a subscription for one event, and only when the
event is fired.

## Implementation notes

`KeptFrom` says this of two stages, given the events that have been fired from one to the other.
Where nothing hangs on them they are left open: every event may have been fired.
-/

namespace Cartography

/-! ### Subscriptions that stay -/

/-- The subscriptions that are there for more than one event. -/
def lasting (subscriptions : List Subscription) : List Subscription :=
  subscriptions.filter (!·.onlyOnce)

/-- The subscriptions are those of before, or, if the event has been fired, those among them that
last. -/
def StillThere (fired : Prop) (before after : List Subscription) : Prop :=
  after = before ∨ fired ∧ after = lasting before

namespace StillThere

variable {fired : Prop} {before after later : List Subscription}

theorem refl (subscriptions : List Subscription) : StillThere fired subscriptions subscriptions :=
  Or.inl rfl

theorem mono {other : Prop} (still : StillThere fired before after) (wider : fired → other) :
    StillThere other before after :=
  still.imp_right (And.imp_left wider)

theorem trans (first : StillThere fired before after) (second : StillThere fired after later) :
    StillThere fired before later := by
  rcases first with rfl | ⟨happened, rfl⟩
  · exact second
  · refine Or.inr ⟨happened, ?_⟩
    rcases second with rfl | ⟨-, rfl⟩
    · rfl
    · rw [lasting, lasting, List.filter_filter]
      simp

theorem mem (still : StillThere fired before after) {s : Subscription} (member : s ∈ after) :
    s ∈ before := by
  rcases still with rfl | ⟨-, rfl⟩
  · exact member
  · exact (List.mem_filter.mp member).1

/-- A lasting subscription at the end stays at the end. -/
theorem concat {listener : Listener}
    (still : StillThere fired (before ++ [⟨listener, false⟩]) after) :
    ∃ others, after = others ++ [⟨listener, false⟩] ∧ StillThere fired before others := by
  rcases still with rfl | ⟨happened, rfl⟩
  · exact ⟨before, rfl, Or.inl rfl⟩
  · refine ⟨lasting before, ?_, Or.inr ⟨happened, rfl⟩⟩
    simp [lasting]

end StillThere

namespace Listeners

theorem subscribed_cons (entry : String × List Subscription) (rest : Listeners)
    (event : String) : subscribed (entry :: rest) event =
      if event = entry.1 then entry.2 else subscribed rest event := by
  obtain ⟨found, subscriptions⟩ := entry
  simp only [subscribed, List.lookup_cons]
  by_cases same : event = found
  · simp [same]
  · simp [same, beq_eq_false_iff_ne.mpr same]

theorem subscribed_update (event other : String) (subscriptions : List Subscription)
    (listeners : Listeners) : (listeners.update event subscriptions).subscribed other =
      if other = event then subscriptions else listeners.subscribed other := by
  induction listeners with
  | nil => rw [update, subscribed_cons]
  | cons entry rest ih =>
      rw [update]
      by_cases here : event = entry.1
      · subst here
        rw [if_pos (by simp), subscribed_cons, subscribed_cons]
        split <;> rfl
      · rw [if_neg (by simpa using here), subscribed_cons, subscribed_cons, ih]
        by_cases same : other = entry.1
        · subst same
          rw [if_pos rfl, if_pos rfl, if_neg (Ne.symm here)]
        · rw [if_neg same, if_neg same]

theorem subscribed_on (listeners : Listeners) (event other : String) (listener : Listener) :
    (listeners.after (.on event listener)).subscribed other =
      if other = event then listeners.subscribed event ++ [⟨listener, false⟩]
      else listeners.subscribed other :=
  subscribed_update event other _ listeners

theorem subscribed_once (listeners : Listeners) (event other : String) (listener : Listener) :
    (listeners.after (.once event listener)).subscribed other =
      if other = event then listeners.subscribed event ++ [⟨listener, true⟩]
      else listeners.subscribed other :=
  subscribed_update event other _ listeners

theorem subscribed_off (listeners : Listeners) (event other : String) (listener : Listener) :
    (listeners.after (.off event listener)).subscribed other =
      if other = event then withoutLatest listener (listeners.subscribed event)
      else listeners.subscribed other :=
  subscribed_update event other _ listeners

/-- The latest subscription of a listener is the last one, if it is there. -/
theorem withoutLatest_concat (listener : Listener) (subscriptions : List Subscription) :
    withoutLatest listener (subscriptions ++ [⟨listener, false⟩]) = subscriptions := by
  simp [withoutLatest]

theorem after_of_plain (listeners : Listeners) {r : Request} (plain : r.subscribes = false) :
    listeners.after r = listeners := by
  cases r <;> first | rfl | cases plain

/-- To every event there are still the subscriptions of before. -/
def KeptFrom (fired : String → Prop) (before after : Listeners) : Prop :=
  ∀ event, StillThere (fired event) (before.subscribed event) (after.subscribed event)

/-- All listeners are of a kind. -/
def All (P : Listener → Prop) (listeners : Listeners) : Prop :=
  ∀ event, ∀ s ∈ listeners.subscribed event, P s.listener

variable {fired : String → Prop} {before after later : Listeners}

theorem KeptFrom.refl (listeners : Listeners) : KeptFrom fired listeners listeners :=
  fun _ => StillThere.refl _

theorem KeptFrom.mono {other : String → Prop} (kept : KeptFrom fired before after)
    (wider : ∀ event, fired event → other event) : KeptFrom other before after :=
  fun event => (kept event).mono (wider event)

theorem KeptFrom.trans (first : KeptFrom fired before after) (second : KeptFrom fired after later) :
    KeptFrom fired before later :=
  fun event => (first event).trans (second event)

theorem All.of_kept {P : Listener → Prop} (all : before.All P)
    (kept : KeptFrom fired before after) : after.All P :=
  fun event s member => all event s ((kept event).mem member)

/-- A subscription of a lasting listener that is taken away again leaves the listeners as they were,
whatever has been fired meanwhile. -/
theorem kept_of_on_off {event : String} {listener : Listener}
    (meanwhile : KeptFrom fired (before.after (.on event listener)) after) :
    KeptFrom fired before (after.after (.off event listener)) := by
  intro other
  have still := meanwhile other
  rw [subscribed_on] at still
  rw [subscribed_off]
  split
  · rename_i same
    subst same
    rw [if_pos rfl] at still
    obtain ⟨others, split, kept⟩ := still.concat
    rw [split, withoutLatest_concat]
    exact kept
  · rename_i different
    rwa [if_neg different] at still

end Listeners

open Listeners

/-- An event is fired in some moments. -/
def FiredIn (moments : List Moment) (event : String) : Prop :=
  ∃ payload, .fired event payload ∈ moments

theorem FiredIn.mono {some moments : List Moment} (among : some ⊆ moments) (event : String)
    (fired : FiredIn some event) : FiredIn moments event :=
  fired.imp fun _ member => among member

/-! ### Listeners through a request -/

namespace Stage

variable {σ : Type}

theorem listeners_notify (stage : Stage σ) (payload : Value) (listener : Listener) :
    (stage.notify payload listener).2.listeners = stage.listeners := by
  cases listener with
  | suppress pattern =>
      rw [notify]
      split <;> rfl
  | callback tag raises => cases raises <;> rfl

theorem listeners_notifyAll (payload : Value) (subscriptions : List Subscription)
    (stage : Stage σ) :
    (notifyAll payload subscriptions stage).2.listeners = stage.listeners := by
  induction subscriptions generalizing stage with
  | nil => rfl
  | cons s rest ih =>
      have told := listeners_notify stage payload s.listener
      rw [notifyAll]
      split
      · rename_i after noted
        rw [ih, ← told, noted]
      · exact told

theorem kept_fire (stage : Stage σ) (event : String) (payload : Value) :
    KeptFrom (· = event) stage.listeners (stage.fire event payload).2.listeners := by
  rw [fire]
  split
  · split <;> exact KeptFrom.refl _
  · intro other
    rw [listeners_notifyAll, subscribed_update]
    split
    · rename_i same
      subst same
      exact Or.inr ⟨rfl, rfl⟩
    · exact StillThere.refl _

theorem kept_fireAll (events : List (String × Value)) (stage : Stage σ) :
    KeptFrom (FiredIn (tellingsAll events stage)) stage.listeners
      (fireAll events stage).2.listeners := by
  induction events generalizing stage with
  | nil => exact KeptFrom.refl _
  | cons fired rest ih =>
      obtain ⟨event, payload⟩ := fired
      rw [fireAll, tellingsAll]
      have first := kept_fire stage event payload
      have here (later : List Moment) (other : String) (same : other = event) :
          FiredIn (.fired event payload :: later) other :=
        ⟨payload, same ▸ List.mem_cons_self ..⟩
      rcases told : stage.fire event payload with ⟨failure | ⟨⟩, after⟩ <;> rw [told] at first
      · exact first.mono (here _)
      · exact (first.mono (here _)).trans ((ih after).mono (FiredIn.mono (by simp)))

/-- The listeners behind a request are those that its events have left, with the subscription that
was asked for, unless the request has failed or is not heeded. -/
theorem listeners_perform (host : Host σ) (r : Request) (stage : Stage σ) :
    ∃ left, KeptFrom (FiredIn (stage.moments host r)) stage.listeners left ∧
      (stage.perform host r).2.listeners =
        match (stage.perform host r).1 with
        | .error _ => left
        | .ok _ => if (host.react stage.host r).takesEffect then left.after r else left := by
  have told := kept_fireAll (host.react (stage.happened (.request r)).host r).events
    { stage.happened (.request r) with
      host := (host.react (stage.happened (.request r)).host r).state }
  refine ⟨_, told.mono (FiredIn.mono (List.subset_cons_self _ _)), ?_⟩
  simp only [perform]
  split <;> rename_i fired <;> rw [fired]
  split
  · rfl
  · split <;> simp_all [happened]

theorem kept_perform (host : Host σ) {r : Request} (plain : r.subscribes = false)
    (stage : Stage σ) :
    KeptFrom (FiredIn (stage.moments host r)) stage.listeners
      (stage.perform host r).2.listeners := by
  obtain ⟨left, kept, listed⟩ := stage.listeners_perform host r
  have same : (stage.perform host r).2.listeners = left := by
    rw [listed, after_of_plain _ plain]
    split
    · rfl
    · split <;> rfl
  rw [same]
  exact kept

theorem listeners_of_heeded {host : Host σ} {r : Request} {stage : Stage σ} {value : Value}
    (taken : (stage.perform host r).1 = .ok value)
    (heeded : (host.react stage.host r).takesEffect = true) :
    ∃ left, KeptFrom (FiredIn (stage.moments host r)) stage.listeners left ∧
      (stage.perform host r).2.listeners = left.after r := by
  obtain ⟨left, kept, listed⟩ := stage.listeners_perform host r
  rw [taken, heeded] at listed
  exact ⟨left, kept, listed⟩

end Stage

/-! ### Who is told -/

/-- A moment is a request put to listeners that are still those of before, an event, or a listener
of a kind that is told of it. -/
inductive Moment.Within (P : Listener → Prop) (before : Listeners) : Moment → Prop
  | asked {r : Request} {reply : Except Failure Value} {heeded : Bool} {listeners : Listeners}
      (kept : KeptFrom (fun _ => True) before listeners) :
      Within P before (.asked r reply heeded listeners)
  | fired {event : String} {payload : Value} : Within P before (.fired event payload)
  | told {listener : Listener} {payload : Value} (own : P listener) :
      Within P before (.told listener payload)

namespace Stage

variable {σ : Type} {P : Listener → Prop} {before : Listeners} {moment : Moment}

theorem within_tellings {payload : Value} {subscriptions : List Subscription}
    (all : ∀ s ∈ subscriptions, P s.listener) (member : moment ∈ tellings payload subscriptions) :
    moment.Within P before := by
  induction subscriptions with
  | nil => cases member
  | cons s rest ih =>
      rw [tellings] at member
      rcases List.mem_cons.mp member with rfl | later
      · exact .told (all s (List.mem_cons_self ..))
      · split at later
        · exact ih (fun s listed => all s (List.mem_cons_of_mem _ listed)) later
        · cases later

/-- Only those are told who have been there before. -/
theorem within_tellingsAll {events : List (String × Value)} {stage : Stage σ}
    (member : moment ∈ tellingsAll events stage) (all : stage.listeners.All P) :
    moment.Within P before := by
  induction events generalizing stage with
  | nil => cases member
  | cons fired rest ih =>
      obtain ⟨event, payload⟩ := fired
      rw [tellingsAll] at member
      rcases List.mem_cons.mp member with rfl | told
      · exact .fired
      rcases List.mem_append.mp told with here | later
      · exact within_tellings (all event) here
      · have kept := kept_fire stage event payload
        split at later
        · rename_i after told
          rw [told] at kept
          exact ih later (all.of_kept kept)
        · cases later

theorem asked_mem_moments (host : Host σ) (r : Request) (stage : Stage σ) :
    .asked r (stage.perform host r).1 (host.react stage.host r).takesEffect stage.listeners ∈
      stage.moments host r :=
  List.mem_cons_self ..

theorem asked_not_mem_tellingsAll {events : List (String × Value)} {stage : Stage σ}
    {asked : Request} {reply : Except Failure Value} {heeded : Bool} {listeners : Listeners} :
    .asked asked reply heeded listeners ∉ tellingsAll events stage := by
  intro member
  have exchanged : (asked, reply) ∈ exchanges (tellingsAll events stage) :=
    List.mem_filterMap.mpr ⟨_, member, rfl⟩
  rw [exchanges_tellingsAll] at exchanged
  cases exchanged

theorem asked_of_mem {host : Host σ} {stage : Stage σ} {r asked : Request}
    {reply : Except Failure Value} {heeded : Bool} {listeners : Listeners}
    (member : .asked asked reply heeded listeners ∈ stage.moments host r) :
    asked = r ∧ listeners = stage.listeners := by
  rcases List.mem_cons.mp member with same | told
  · cases same
    exact ⟨rfl, rfl⟩
  · exact absurd told asked_not_mem_tellingsAll

theorem within_moments (all : before.All P) {fired : String → Prop} {stage : Stage σ}
    (kept : KeptFrom fired before stage.listeners) (host : Host σ) (r : Request) :
    ∀ moment ∈ stage.moments host r, moment.Within P before := by
  intro moment member
  rcases List.mem_cons.mp member with rfl | told
  · exact .asked (kept.mono fun _ _ => trivial)
  · exact within_tellingsAll told (all.of_kept kept)

end Stage

/-! ### Listeners through a run -/

namespace Script

variable {σ α β : Type}

/-- A run in which no subscription is asked for keeps the listeners. -/
theorem kept_run (host : Host σ) (script : Script α) (stage : Stage σ)
    (plain : ∀ exchange ∈ exchanges (script.moments host stage), exchange.1.subscribes = false) :
    KeptFrom (FiredIn (script.moments host stage)) stage.listeners
      (script.run host stage).2.listeners := by
  induction script generalizing stage with
  | finish result => exact KeptFrom.refl _
  | ask r next ih =>
      simp only [moments, exchanges_append, Stage.exchanges_moments, List.mem_append,
        List.mem_singleton, or_imp, forall_and, forall_eq] at plain
      rw [run, moments]
      have first := stage.kept_perform host plain.1
      have later := ih _ _ plain.2
      exact (first.mono (FiredIn.mono (List.subset_append_left _ _))).trans
        (later.mono (FiredIn.mono (List.subset_append_right _ _)))
  | note path entry next ih =>
      exact (ih (stage.written path entry) plain).mono (FiredIn.mono (List.subset_cons_self _ _))
  | call listener next ih =>
      have kept := ih (stage.notify .null listener).1 (stage.notify .null listener).2 plain
      rw [Stage.listeners_notify] at kept
      exact kept.mono (FiredIn.mono (List.subset_cons_self _ _))

/-- A script does nothing but ask, and not for subscriptions. -/
def OnlyAsks : Script α → Prop
  | .finish _ => True
  | .ask r next => r.subscribes = false ∧ ∀ reply, (next reply).OnlyAsks
  | .note _ _ _ => False
  | .call _ _ => False

namespace OnlyAsks

variable {script : Script α}

theorem bind {f : α → Script β} (first : script.OnlyAsks) (second : ∀ a, (f a).OnlyAsks) :
    (script.bind f).OnlyAsks := by
  induction script with
  | finish result =>
      cases result with
      | error failure => trivial
      | ok a => exact second a
  | ask r next ih => exact ⟨first.1, fun reply => ih reply (first.2 reply)⟩
  | note path entry next ih => cases first
  | call listener next ih => cases first

theorem forEach {f : α → Script Unit} (each : ∀ a, (f a).OnlyAsks) (items : List α) :
    (forEach items f).OnlyAsks := by
  induction items with
  | nil => trivial
  | cons a rest ih => exact (each a).bind fun _ => ih

/-- The moments of a script that only asks are requests and what they bring about. -/
theorem within {P : Listener → Prop} {before : Listeners} (all : before.All P)
    (only : script.OnlyAsks) {fired : String → Prop} {stage : Stage σ}
    (kept : KeptFrom fired before stage.listeners) (host : Host σ) :
    ∀ moment ∈ script.moments host stage, moment.Within P before := by
  induction script generalizing stage fired with
  | finish result => simp [moments]
  | ask r next ih =>
      intro moment member
      rcases List.mem_append.mp member with here | later
      · exact Stage.within_moments all kept host r moment here
      · have performed := stage.kept_perform host only.1
        have still : KeptFrom (fun _ => True) before (stage.perform host r).2.listeners :=
          (kept.mono fun _ _ => trivial).trans (performed.mono fun _ _ => trivial)
        exact ih _ (only.2 _) still moment later
  | note path entry next ih => cases only
  | call listener next ih => cases only

end OnlyAsks

end Script

end Cartography
