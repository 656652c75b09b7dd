import Cartography.Host.Memory
import Cartography.Proofs.Host.Listening
import Cartography.Proofs.Toolkit.Subscribing
import Cartography.Proofs.Value.Entries
import Cartography.Proofs.Value.Writable
import Mathlib.Data.List.Infix

/-!
# Listening for errors

No operation leaves a listener for errors behind or takes one away. A removal has one of its own
while it is at work, from before the first id until after the last one, and what that listener is
told of is written to the journal, once for each event.

## Implementation notes

Hosts may fire anything at any request, and may fail at any request but those that subscribe to an
event or end a subscription. This is asked of the moments of a run only (`Obliging`): a host that
goes wrong elsewhere is no exception.
-/

namespace Cartography

/-! ### The message of an error -/

namespace Value

theorem plain?_of_shown {value : Value} (shown : ¬ value.HoldsOversized) :
    ∃ text, value.plain? = some text :=
  Option.ne_none_iff_exists'.mp (mt (plain?_eq_none_iff value).mp shown)

/-- What is found in a mapping that can be shown can be shown, and else what stands for it. -/
theorem shown_getD {fields : Fields} (shown : ¬ (mapping fields).HoldsOversized) (key : String)
    {default : Value} (other : ¬ default.HoldsOversized) :
    ¬ ((fields.get? key).getD default).HoldsOversized := by
  cases found : fields.get? key with
  | none => exact other
  | some value => exact fun holds => shown (.entry (Fields.mem_of_get? found) holds)

end Value

/-- A payload that can be shown has a message. -/
theorem Event.message?_of_shown {payload : Value} (shown : ¬ payload.HoldsOversized) :
    ∃ message, Event.message? payload = some message := by
  unfold Event.message?
  split
  · have inner := Value.shown_getD shown "error" shown
    split
    · rename_i error found
      rw [found] at inner
      exact Value.plain?_of_shown (Value.shown_getD inner "message" (Value.shown_text ""))
    · exact Value.plain?_of_shown inner
  · exact Value.plain?_of_shown shown

/-- An error that holds the pattern is noted for debugging, any other one as an error. -/
theorem Stage.errorEntry_eq (pattern message : String) :
    errorEntry pattern message =
      if pattern.toList <:+: message.toList then
        .plain .debug ("Ignoring host error: " ++ message)
      else .plain .error ("Host error: " ++ message) := by
  simp only [errorEntry, Text.holds_iff]

/-! ### What a listener is told -/

/-- The payloads that a listener is told of in some moments. -/
def payloadsTo (listener : Listener) (moments : List Moment) : List Value :=
  moments.filterMap fun
    | .told other payload => if other = listener then some payload else none
    | _ => none

theorem payloadsTo_told (listener : Listener) (payload : Value) (moments : List Moment) :
    payloadsTo listener (.told listener payload :: moments) =
      payload :: payloadsTo listener moments := by
  simp [payloadsTo]

namespace Listener

/-- Whether a listener is the toolkit's own. -/
def isOwn : Listener → Bool
  | suppress _ => true
  | callback _ _ => false

/-- A listener is the user's, or the toolkit's own for a pattern. -/
def UserOr (pattern : String) (listener : Listener) : Prop :=
  listener.isOwn = false ∨ listener = suppress pattern

end Listener

/-- Where the toolkit listens for one pattern only, what its listener is told of is all that is
written: an entry for each payload. -/
theorem entries_of_within {pattern : String} {moments : List Moment}
    (within : ∀ moment ∈ moments, ∃ before,
      moment.Within (Listener.UserOr pattern) before)
    (shown : ∀ listener payload, .told listener payload ∈ moments → ¬ payload.HoldsOversized) :
    ∃ messages,
      List.Forall₂ (fun payload message => Event.message? payload = some message)
        (payloadsTo (.suppress pattern) moments) messages ∧
      moments.filterMap Moment.entry? =
        messages.map fun message => (Stage.logger, Stage.errorEntry pattern message) := by
  induction moments with
  | nil => exact ⟨[], .nil, rfl⟩
  | cons moment rest ih =>
      obtain ⟨messages, heard, written⟩ :=
        ih (fun moment member => within moment (List.mem_cons_of_mem _ member))
          fun listener payload member => shown listener payload (List.mem_cons_of_mem _ member)
      obtain ⟨before, here⟩ := within moment (List.mem_cons_self ..)
      cases here with
      | asked kept => exact ⟨messages, heard, written⟩
      | fired => exact ⟨messages, heard, written⟩
      | @told listener payload own =>
          rcases own with user | rfl
          · cases listener with
            | suppress other => cases user
            | callback tag raises => exact ⟨messages, heard, written⟩
          · obtain ⟨message, found⟩ :=
              Event.message?_of_shown (shown _ payload (List.mem_cons_self ..))
            refine ⟨message :: messages, ?_, ?_⟩
            · rw [payloadsTo_told]
              exact .cons found heard
            · simp [Moment.entry?, found, written]

/-! ### Obliging hosts -/

/-- Whether a request subscribes to all events of a name, or ends a subscription. -/
def Request.listens : Request → Bool
  | .on _ _ | .off _ _ => true
  | _ => false

/-- In some moments a host does as it is told about subscriptions, and fires nothing that cannot be
shown. -/
structure Obliging (moments : List Moment) : Prop where
  listens : ∀ {r reply heeded listeners}, .asked r reply heeded listeners ∈ moments →
    r.listens = true → (∃ value, reply = .ok value) ∧ heeded = true
  shown : ∀ {listener payload}, .told listener payload ∈ moments → ¬ payload.HoldsOversized

namespace Obliging

variable {moments : List Moment}

theorem mono {some : List Moment} (obliging : Obliging moments) (among : some ⊆ moments) :
    Obliging some where
  listens member := obliging.listens (among member)
  shown member := obliging.shown (among member)

theorem nil : Obliging [] where
  listens member := absurd member List.not_mem_nil
  shown member := absurd member List.not_mem_nil

/-- A request that is heeded and answered does no harm. -/
theorem asked (later : Obliging moments) (r : Request) (value : Value) (listeners : Listeners) :
    Obliging (.asked r (.ok value) true listeners :: moments) where
  listens member listens := by
    rcases List.mem_cons.mp member with same | rest
    · cases same
      exact ⟨⟨value, rfl⟩, rfl⟩
    · exact later.listens rest listens
  shown member := later.shown (List.mem_of_ne_of_mem (by simp) member)

theorem fired (later : Obliging moments) (event : String) (payload : Value) :
    Obliging (.fired event payload :: moments) where
  listens member := later.listens (List.mem_of_ne_of_mem (by simp) member)
  shown member := later.shown (List.mem_of_ne_of_mem (by simp) member)

theorem told (later : Obliging moments) (listener : Listener) {payload : Value}
    (shown : ¬ payload.HoldsOversized) : Obliging (.told listener payload :: moments) where
  listens member := later.listens (List.mem_of_ne_of_mem (by simp) member)
  shown member := by
    rcases List.mem_cons.mp member with same | rest
    · cases same
      exact shown
    · exact later.shown rest

end Obliging

/-! ### Removals -/

namespace Removal

variable (removal : Removal) {σ : Type}

/-- How errors are listened for during a removal, with its moments and what it comes to. -/
structure ListensForErrors (before after : Stage σ) (moments : List Moment)
    (result : Except Failure Answer) : Prop where
  /-- The ids are tried in turn, between the subscription and its end. A bad argument for them ends
  the removal without an id being tried. -/
  tries : ∃ subscribed cancelled batch outcome,
    exchanges moments =
        (removal.subscription, .ok subscribed) :: (batch ++ [(removal.cancellation, .ok cancelled)]) ∧
      InTurn removal.settled removal.requests batch outcome ∧
      result = outcome.map fun _ => .value .null
  /-- From the subscription on there is one listener of the toolkit's own. -/
  listens : ∀ r reply heeded listeners, .asked r reply heeded listeners ∈ moments →
    r ≠ removal.subscription →
      ((listeners.subscribed Event.error).filter fun s => s.listener.isOwn) =
        [⟨.suppress removal.pattern, false⟩]
  /-- One entry is written for each payload that this listener is told of, and no other. -/
  writes : ∃ messages,
    List.Forall₂ (fun payload message => Event.message? payload = some message)
        (payloadsTo (.suppress removal.pattern) moments) messages ∧
      after.journal = messages.foldl (fun journal message => journal.write Stage.logger
        (if removal.pattern.toList <:+: message.toList then
          .plain .debug ("Ignoring host error: " ++ message)
        else .plain .error ("Host error: " ++ message))) before.journal

/-- The stages a removal passes on an obliging host: the one it starts on, the one with its
subscription, on which the batch is run, and the one without it. -/
structure Passes (host : Host σ) (before subscribed after : Stage σ) (moments : List Moment)
    (result : Except Failure Answer) : Prop where
  subscribes : ∃ value, before.perform host removal.subscription = (.ok value, subscribed)
  cancels : ∃ value, (removal.batch.run host subscribed).2.perform host removal.cancellation =
    (.ok value, after)
  moments_eq : moments = before.moments host removal.subscription ++
    (removal.batch.moments host subscribed ++
      (removal.batch.run host subscribed).2.moments host removal.cancellation)
  result_eq : result = (removal.batch.run host subscribed).1.map fun _ => .value .null
  /-- What is there with the subscription is what was there before, and the subscription. -/
  adds : ∃ left, before.listeners.KeptFrom (fun _ => True) left ∧
    subscribed.listeners = left.after removal.subscription
  restores : before.listeners.KeptFrom (FiredIn moments) after.listeners

/-- The requests of a removal are not about subscriptions. -/
def Plain : Prop := ∀ id, (removal.request id).subscribes = false

variable {removal} {host : Host σ}

theorem Plain.onlyAsks (plain : removal.Plain) : removal.batch.OnlyAsks := by
  have each (id : String) :
      (do let _ ← Script.request (removal.request (.text id)) : Script Unit).OnlyAsks :=
    ⟨plain (.text id), fun reply => by cases reply <;> trivial⟩
  simp only [batch, Toolkit.removeEach]
  cases Identifiers.ofValue removal.ids with
  | error failure => trivial
  | ok ids => exact Script.OnlyAsks.forEach each ids

theorem Plain.noneSubscribes (plain : removal.Plain) : NoneSubscribes removal.requests := by
  rw [requests]
  split
  · intro r member
    obtain ⟨id, -, rfl⟩ := List.mem_map.mp member
    exact plain _
  · exact noneSubscribes_nil

theorem Plain.kept_batch (plain : removal.Plain) (host : Host σ) (stage : Stage σ) :
    stage.listeners.KeptFrom (FiredIn (removal.batch.moments host stage))
      (removal.batch.run host stage).2.listeners :=
  Script.kept_run host removal.batch stage
    (removal.asksInTurn_batch.plain plain.noneSubscribes host stage)

theorem Plain.passes (plain : removal.Plain) {stage : Stage σ}
    (obliging : Obliging (removal.script.moments host stage)) :
    ∃ subscribed, removal.Passes host stage subscribed (removal.script.run host stage).2
      (removal.script.moments host stage) (removal.script.run host stage).1 := by
  have goes := removal.goes host stage
  generalize removal.script.moments host stage = moments at goes obliging
  generalize (removal.script.run host stage).1 = result at goes
  generalize (removal.script.run host stage).2 = after at goes
  cases goes with
  | refused subscribes =>
      obtain ⟨⟨value, taken⟩, -⟩ := obliging.listens (Stage.asked_mem_moments host _ stage) rfl
      rw [subscribes] at taken
      cases taken
  | @tried value subscribed reply after subscribes cancels =>
      have first := Stage.asked_mem_moments host removal.subscription stage
      have last := Stage.asked_mem_moments host removal.cancellation
        (removal.batch.run host subscribed).2
      obtain ⟨-, heeded⟩ := obliging.listens (List.mem_append_left _ first) rfl
      obtain ⟨⟨answer, taken⟩, heededLast⟩ :=
        obliging.listens (List.mem_append_right _ (List.mem_append_right _ last)) rfl
      obtain ⟨left, kept, added⟩ := Stage.listeners_of_heeded (congrArg Prod.fst subscribes) heeded
      obtain ⟨behind, meanwhile, removed⟩ := Stage.listeners_of_heeded taken heededLast
      rw [cancels] at taken removed
      rw [subscribes] at added
      obtain rfl : reply = .ok answer := taken
      refine ⟨subscribed, ⟨value, subscribes⟩, ⟨answer, cancels⟩, rfl, rfl,
        ⟨left, kept.mono fun _ _ => trivial, added⟩, ?_⟩
      -- events may be fired in all three parts
      have inBatch := (plain.kept_batch host subscribed).mono (FiredIn.mono
        (List.subset_append_left _
          ((removal.batch.run host subscribed).2.moments host removal.cancellation)))
      have tried := inBatch.trans (meanwhile.mono (FiredIn.mono (List.subset_append_right _ _)))
      rw [added] at tried
      rw [removed]
      have whole := (Listeners.kept_of_on_off tried).mono
        (FiredIn.mono (List.subset_append_right (stage.moments host removal.subscription) _))
      exact (kept.mono (FiredIn.mono (List.subset_append_left _ _))).trans whole

namespace Passes

variable {before subscribed after : Stage σ} {moments : List Moment}
  {result : Except Failure Answer}
  (passes : removal.Passes host before subscribed after moments result)
  (users : before.listeners.All fun listener => listener.isOwn = false)
include passes users

/-- The listeners with the subscription are the user's and the toolkit's own one. -/
theorem userOr : subscribed.listeners.All (Listener.UserOr removal.pattern) := by
  obtain ⟨left, kept, added⟩ := passes.adds
  intro event s member
  rw [added, subscription, Listeners.subscribed_on] at member
  split at member
  · rcases List.mem_append.mp member with others | own
    · exact Or.inl (users.of_kept kept _ s others)
    · rw [List.mem_singleton.mp own]
      exact Or.inr rfl
  · exact Or.inl (users.of_kept kept event s member)

/-- As long as the subscription is there, it is the only one of the toolkit's. -/
theorem own_eq {listeners : Listeners}
    (meanwhile : subscribed.listeners.KeptFrom (fun _ => True) listeners) :
    ((listeners.subscribed Event.error).filter fun s => s.listener.isOwn) =
      [⟨.suppress removal.pattern, false⟩] := by
  obtain ⟨left, kept, added⟩ := passes.adds
  have still := meanwhile Event.error
  rw [added, subscription, Listeners.subscribed_on, if_pos rfl] at still
  obtain ⟨others, split, there⟩ := still.concat
  have none : others.filter (fun s => s.listener.isOwn) = [] := by
    refine List.filter_eq_nil_iff.mpr fun s member => ?_
    simp [users.of_kept kept _ s (there.mem member)]
  rw [split, List.filter_append, none]
  rfl

/-- A request that is not the subscription itself finds the listeners with the subscription. -/
theorem kept_of_asked (plain : removal.Plain) {r : Request} {reply : Except Failure Value}
    {heeded : Bool} {listeners : Listeners} (member : .asked r reply heeded listeners ∈ moments)
    (other : r ≠ removal.subscription) :
    subscribed.listeners.KeptFrom (fun _ => True) listeners := by
  rw [passes.moments_eq] at member
  rcases List.mem_append.mp member with first | later
  · exact absurd (Stage.asked_of_mem first).1 other
  · rcases List.mem_append.mp later with batch | last
    · have start : subscribed.listeners.KeptFrom (fun _ => True) subscribed.listeners := .refl _
      cases plain.onlyAsks.within (passes.userOr users) start host _ batch with
      | asked kept => exact kept
    · rw [(Stage.asked_of_mem last).2]
      exact (plain.kept_batch host subscribed).mono fun _ _ => trivial

/-- Whoever is told of anything is the user's or the toolkit's own listener. -/
theorem within (plain : removal.Plain) :
    ∀ moment ∈ moments, ∃ start, moment.Within (Listener.UserOr removal.pattern) start := by
  have all := passes.userOr users
  have same (stage : Stage σ) : stage.listeners.KeptFrom (fun _ => True) stage.listeners :=
    .refl _
  have first : before.listeners.All (Listener.UserOr removal.pattern) :=
    fun event s member => Or.inl (users event s member)
  intro moment member
  rw [passes.moments_eq] at member
  rcases List.mem_append.mp member with subscribing | later
  · exact ⟨_, Stage.within_moments first (same before) host _ moment subscribing⟩
  · rcases List.mem_append.mp later with batch | last
    · exact ⟨_, plain.onlyAsks.within all (same subscribed) host moment batch⟩
    · exact ⟨_, Stage.within_moments all (plain.kept_batch host subscribed) host _ moment last⟩

end Passes

/-- On an obliging host, where nobody but the user listens before, a removal listens for errors as
long as it should, and writes what it hears. -/
theorem Plain.listensForErrors (plain : removal.Plain) {stage : Stage σ}
    (users : stage.listeners.All fun listener => listener.isOwn = false)
    (obliging : Obliging (removal.script.moments host stage)) :
    removal.ListensForErrors stage (removal.script.run host stage).2
      (removal.script.moments host stage) (removal.script.run host stage).1 := by
  obtain ⟨subscribed, passes⟩ := plain.passes obliging
  refine ⟨?_, ?_, ?_⟩
  · obtain ⟨value, subscribes⟩ := passes.subscribes
    obtain ⟨answer, cancels⟩ := passes.cancels
    refine ⟨value, answer, _, _, ?_, removal.asksInTurn_batch.inTurn host subscribed,
      passes.result_eq⟩
    rw [passes.moments_eq]
    simp [subscribes, cancels]
  · intro r reply heeded listeners member other
    exact passes.own_eq users (passes.kept_of_asked users plain member other)
  · obtain ⟨messages, heard, written⟩ := entries_of_within (passes.within users plain)
      fun listener payload told => obliging.shown told
    refine ⟨messages, heard, ?_⟩
    rw [Script.journal_run, Journal.after, written, List.foldl_map]
    simp only [Stage.errorEntry_eq]

end Removal

theorem Command.plain_removal {settings : Settings} {command : Command} {removal : Removal}
    (removes : command.removal? settings = some removal) : removal.Plain := by
  cases command with
  | removeLayers layers =>
      obtain rfl := Option.some.inj removes
      exact fun _ => rfl
  | removeSources sources =>
      obtain rfl := Option.some.inj removes
      exact fun _ => rfl
  | _ => cases removes

/-! ### Calls -/

namespace Call

variable {σ : Type} (settings : Settings) (host : Host σ)

theorem plain_removal {call : Call} {removal : Removal}
    (removes : call.removal? settings = some removal) : removal.Plain := by
  rw [removal?] at removes
  split at removes
  · exact Command.plain_removal removes
  · cases removes

/-- What is kept of the listeners in some moments: those for errors, and that the toolkit has none
of its own. -/
structure Keeps (moments : List Moment) (before after : Listeners) : Prop where
  errors : StillThere (FiredIn moments Event.error) (before.subscribed Event.error)
    (after.subscribed Event.error)
  users : after.All fun listener => listener.isOwn = false

omit settings host in
theorem keeps_of_kept {moments : List Moment} {before after : Listeners}
    (kept : before.KeptFrom (FiredIn moments) after)
    (users : before.All fun listener => listener.isOwn = false) : Keeps moments before after :=
  ⟨kept Event.error, users.of_kept kept⟩

omit settings host in
/-- A callback for when the map has loaded is none for errors. -/
theorem Keeps.once {moments : List Moment} {before after : Listeners}
    (keeps : Keeps moments before after) (tag : String) (raises : Option String) :
    Keeps moments before (after.after (.once Event.load (.callback tag raises))) where
  errors := by
    rw [Listeners.subscribed_once, if_neg (by decide)]
    exact keeps.errors
  users := by
    intro event s member
    rw [Listeners.subscribed_once] at member
    split at member
    · rcases List.mem_append.mp member with others | own
      · exact keeps.users _ s others
      · rw [List.mem_singleton.mp own]
        rfl
    · exact keeps.users event s member

/-- A callback for when the map has loaded keeps the listeners for errors, whether it is called at
once or later. -/
theorem keeps_onLoad (tag : String) (raises : Option String) {stage : Stage σ}
    (users : stage.listeners.All fun listener => listener.isOwn = false) :
    Keeps ((Command.onLoadScript (.callback tag raises)).moments host stage) stage.listeners
      ((Command.onLoadScript (.callback tag raises)).run host stage).2.listeners := by
  have asked : stage.listeners.KeptFrom (FiredIn (stage.moments host .loaded))
      (stage.perform host .loaded).2.listeners := stage.kept_perform host rfl
  rw [Command.run_onLoadScript, Command.moments_onLoadScript]
  rcases performed : stage.perform host .loaded with ⟨failure | loaded, after⟩ <;>
    rw [performed] at asked
  · exact keeps_of_kept (asked.mono (FiredIn.mono (List.subset_append_left _ _))) users
  dsimp only
  split
  · rw [Stage.listeners_notify]
    exact keeps_of_kept (asked.mono (FiredIn.mono (List.subset_append_left _ _))) users
  · obtain ⟨left, kept, listed⟩ := after.listeners_perform host
      (.once Event.load (.callback tag raises))
    have still := keeps_of_kept
      ((asked.mono (FiredIn.mono (List.subset_append_left _ _))).trans
        (kept.mono (FiredIn.mono (List.subset_append_right _ _)))) users
    rw [listed]
    split
    · exact still
    · split
      · exact still.once tag raises
      · exact still

/-- Whatever is called on an obliging host, the listeners for errors are kept. -/
theorem keeps (call : Call) {stage : Stage σ}
    (users : stage.listeners.All fun listener => listener.isOwn = false)
    (obliging : Obliging ((call.script settings).moments host stage)) :
    Keeps ((call.script settings).moments host stage) stage.listeners
      ((call.script settings).run host stage).2.listeners := by
  rcases call.checksFirst settings with checks | ⟨removal, removes⟩ | ⟨tag, raises, rfl⟩
  · exact keeps_of_kept (Script.kept_run host _ stage (checks.plain host stage)) users
  · rw [call.script_of_removal settings removes] at obliging ⊢
    obtain ⟨subscribed, passes⟩ := (plain_removal settings removes).passes obliging
    exact keeps_of_kept passes.restores users
  · have script : (onLoad tag raises).script settings =
        Command.silent (Command.onLoadScript (.callback tag raises)) := rfl
    rw [script, Command.run_silent, Command.moments_silent]
    exact keeps_onLoad host tag raises users

/-! ### Runs of calls -/

/-- The stage after some calls in turn. A call that fails does not end the run. -/
def stageAfter : List Call → Stage σ → Stage σ
  | [], stage => stage
  | call :: rest, stage => stageAfter rest ((call.script settings).run host stage).2

/-- The moments of some calls in turn. -/
def momentsOf : List Call → Stage σ → List Moment
  | [], _ => []
  | call :: rest, stage =>
      (call.script settings).moments host stage ++
        momentsOf rest ((call.script settings).run host stage).2

theorem momentsOf_concat (calls : List Call) (call : Call) (stage : Stage σ) :
    momentsOf settings host (calls ++ [call]) stage =
      momentsOf settings host calls stage ++
        (call.script settings).moments host (stageAfter settings host calls stage) := by
  induction calls generalizing stage with
  | nil => exact List.append_nil _
  | cons first rest ih =>
      simp only [List.cons_append, momentsOf, stageAfter, ih, List.append_assoc]

theorem keeps_run (calls : List Call) {stage : Stage σ}
    (users : stage.listeners.All fun listener => listener.isOwn = false)
    (obliging : Obliging (momentsOf settings host calls stage)) :
    Keeps (momentsOf settings host calls stage) stage.listeners
      (stageAfter settings host calls stage).listeners := by
  induction calls generalizing stage with
  | nil => exact keeps_of_kept (.refl _) users
  | cons call rest ih =>
      have here := call.keeps settings host users
        (obliging.mono (List.subset_append_left _ _))
      have later := ih here.users (obliging.mono (List.subset_append_right _ _))
      exact ⟨(here.errors.mono (FiredIn.mono (List.subset_append_left _ _) _)).trans
        (later.errors.mono (FiredIn.mono (List.subset_append_right _ _) _)), later.users⟩

/-- **No listener for errors is leaked, and errors are dealt with exactly.** Operations are called in
any number, with any arguments, on a host that may fire events and fail as it likes, but is obliging
about subscriptions. At first nobody but the user listens. Then every call, whether it fails or not,
keeps the listeners for errors, and a removal has one of its own for as long as it tries its ids. -/
theorem keeps_error_listeners (stage : Stage σ)
    (users : stage.listeners.All fun listener => listener.isOwn = false) (calls : List Call)
    (call : Call) (obliging : Obliging (momentsOf settings host (calls ++ [call]) stage)) :
    let before := stageAfter settings host calls stage
    let moments := (call.script settings).moments host before
    let ran := (call.script settings).run host before
    StillThere (FiredIn moments Event.error) (before.listeners.subscribed Event.error)
        (ran.2.listeners.subscribed Event.error) ∧
      StillThere (FiredIn (momentsOf settings host (calls ++ [call]) stage) Event.error)
        (stage.listeners.subscribed Event.error) (ran.2.listeners.subscribed Event.error) ∧
      ∀ removal, call.removal? settings = some removal →
        removal.ListensForErrors before ran.2 moments ran.1 := by
  rw [momentsOf_concat] at obliging ⊢
  have first := keeps_run settings host calls users (obliging.mono (List.subset_append_left _ _))
  have now := obliging.mono (List.subset_append_right _ _)
  have last := call.keeps settings host first.users now
  refine ⟨last.errors, ?_, ?_⟩
  · exact (first.errors.mono (FiredIn.mono (List.subset_append_left _ _) _)).trans
      (last.errors.mono (FiredIn.mono (List.subset_append_right _ _) _))
  · intro removal removes
    rw [call.script_of_removal settings removes] at now ⊢
    exact (plain_removal settings removes).listensForErrors first.users now

end Call

/-- A host in memory without any layers, where a callback of the user's listens for errors. -/
def Stage.bare : Stage MemoryHost :=
  ⟨⟨[], [], .bool true, []⟩, [(Event.error, [⟨.callback "mine" none, false⟩])], [], [], .empty⟩

/-- A layer that is not there is removed without harm: the error is noted for debugging, and only
the user's listener is left. -/
theorem Call.missing_layer_is_noted :
    let ran := ((onToolkit "remove_layer" [.text "roads"] []).script .standard).run .memory .bare
    ran.2.listeners.subscribed Event.error = [⟨.callback "mine" none, false⟩] ∧
      ran.2.journal = Stage.bare.journal.write Stage.logger (.plain .debug
        ("Ignoring host error: The layer 'roads' does not exist in the map's style and cannot " ++
          "be removed.")) := by
  have users : Stage.bare.listeners.All fun listener => listener.isOwn = false := by
    intro event s member
    rw [Stage.bare, Listeners.subscribed_cons] at member
    split at member
    · rw [List.mem_singleton.mp member]
      rfl
    · cases member
  let own := Listener.suppress Settings.standard.missingLayerPattern
  let error := MemoryHost.missingLayer (.text "roads")
  let during : Listeners := [(Event.error, [⟨.callback "mine" none, false⟩, ⟨own, false⟩])]
  have moments : momentsOf .standard .memory
      ([] ++ [onToolkit "remove_layer" [.text "roads"] []]) Stage.bare =
        [.asked (.on Event.error own) (.ok .null) true Stage.bare.listeners,
          .asked (.removeLayer (.text "roads")) (.ok .null) true during,
          .fired Event.error error, .told (.callback "mine" none) error, .told own error,
          .asked (.off Event.error own) (.ok .null) true during] := rfl
  have shown : ¬ error.HoldsOversized := (Value.isWritable_iff error).mp rfl
  have obliging : Obliging (momentsOf .standard .memory
      ([] ++ [onToolkit "remove_layer" [.text "roads"] []]) Stage.bare) := by
    rw [moments]
    have ended := Obliging.nil.asked (.off Event.error own) .null during
    have heard := ((ended.told own shown).told (.callback "mine" none) shown).fired Event.error error
    exact (heard.asked (.removeLayer (.text "roads")) .null during).asked _ .null _
  obtain ⟨still, -, listens⟩ := keeps_error_listeners .standard .memory .bare users [] _ obliging
  constructor
  · rcases still with same | ⟨-, same⟩ <;> exact same
  · obtain ⟨messages, heard, written⟩ := (listens _ rfl).writes
    have alone : List.Forall₂ (fun payload message => Event.message? payload = some message)
        [error] messages := heard
    obtain ⟨message, rest, found, none, rfl⟩ := List.forall₂_cons_left_iff.mp alone
    obtain rfl := List.forall₂_nil_left_iff.mp none
    obtain rfl := Option.some.inj (found.symm.trans rfl)
    have noted := Stage.errorEntry_eq Settings.standard.missingLayerPattern
      ("The layer '" ++ "roads" ++ "' does not exist in the map's style and cannot be removed.")
    exact written.trans (congrArg (Stage.bare.journal.write Stage.logger) noted.symm)

end Cartography
