import Cartography.Proofs.Host.Moments

/-!
# Scripts that ask in turn

Most scripts put the same requests on every host, up to the first one that fails. Such a script
ends with the failure, or as it would end anyway when nothing has failed.

## Implementation notes

`Script.AsksInTurn` is read off the script alone, before there is a host. `InTurn` is what it comes
to in a run: so many of the requests with their replies, and the result.
-/

namespace Cartography

/-- Whether a request is about a subscription to an event. -/
def Request.subscribes : Request → Bool
  | .once _ _ | .on _ _ | .off _ _ => true
  | _ => false

/-- No request is about a subscription. -/
def NoneSubscribes (requests : List Request) : Prop := ∀ r ∈ requests, r.subscribes = false

theorem noneSubscribes_nil : NoneSubscribes [] := fun _ member => absurd member List.not_mem_nil

variable {α β : Type}

/-- Requests are put in turn and answered until one fails, which is then the result. Where none
fails the result is the last one. -/
inductive InTurn (last : Except Failure α) :
    List Request → List (Request × Except Failure Value) → Except Failure α → Prop
  | done : InTurn last [] [] last
  | answered {r : Request} {value : Value} {rest : List Request}
      {exchanges : List (Request × Except Failure Value)} {result : Except Failure α}
      (later : InTurn last rest exchanges result) :
      InTurn last (r :: rest) ((r, .ok value) :: exchanges) result
  | failed {r : Request} {failure : Failure} {rest : List Request} :
      InTurn last (r :: rest) [(r, .error failure)] (.error failure)

namespace InTurn

variable {last result : Except Failure α} {requests : List Request}
  {exchanges : List (Request × Except Failure Value)}

/-- Where there is nothing to ask, the result is the last one. -/
theorem of_nil (turn : InTurn last [] exchanges result) : exchanges = [] ∧ result = last := by
  cases turn
  exact ⟨rfl, rfl⟩

/-- No more is asked than there was to ask, and in the same order. -/
theorem asked_first (turn : InTurn last requests exchanges result) :
    exchanges.map (·.1) <+: requests := by
  induction turn with
  | done => exact List.nil_prefix
  | answered later ih => simpa using ih
  | failed => simp

/-- Where no reply is a failure everything is asked, and the result is the last one. -/
theorem all_of_accepted (turn : InTurn last requests exchanges result)
    (accepted : ∀ exchange ∈ exchanges, ∃ value, exchange.2 = .ok value) :
    exchanges.map (·.1) = requests ∧ result = last := by
  induction turn with
  | done => exact ⟨rfl, rfl⟩
  | answered later ih =>
      obtain ⟨asked, ended⟩ := ih fun exchange member =>
        accepted exchange (List.mem_cons_of_mem _ member)
      exact ⟨by simp [asked], ended⟩
  | failed =>
      obtain ⟨value, absurd⟩ := accepted _ (List.mem_singleton_self _)
      cases absurd

/-- A result is the last one behind everything that was asked, or the failure of a reply. -/
theorem ended (turn : InTurn last requests exchanges result) :
    (exchanges.map (·.1) = requests ∧ result = last) ∨
      ∃ r failure, (r, .error failure) ∈ exchanges ∧ result = .error failure := by
  induction turn with
  | done => exact Or.inl ⟨rfl, rfl⟩
  | answered later ih =>
      rcases ih with ⟨asked, ended⟩ | ⟨r, failure, member, ended⟩
      · exact Or.inl ⟨by simp [asked], ended⟩
      · exact Or.inr ⟨r, failure, List.mem_cons_of_mem _ member, ended⟩
  | failed => exact Or.inr ⟨_, _, List.mem_singleton_self _, rfl⟩

/-- Behind a reply that is a failure nothing is asked, and the failure is the result. -/
theorem stops (turn : InTurn last requests exchanges result) {k : Nat} {r : Request}
    {failure : Failure} (replied : exchanges[k]? = some (r, .error failure)) :
    exchanges.length = k + 1 ∧ result = .error failure := by
  induction turn generalizing k with
  | done => simp at replied
  | answered later ih =>
      cases k with
      | zero => simp at replied
      | succ k =>
          obtain ⟨asked, ended⟩ := ih (by simpa using replied)
          exact ⟨by simp [asked], ended⟩
  | failed =>
      cases k with
      | zero =>
          obtain ⟨-, same⟩ : _ = r ∧ _ = failure := by simpa using replied
          exact ⟨rfl, by rw [same]⟩
      | succ k => simp at replied

/-- Where there is one thing to ask, it is asked. -/
theorem length_of_single {r : Request} (turn : InTurn last [r] exchanges result) :
    exchanges.length = 1 := by
  cases turn with
  | answered later => rw [later.of_nil.1, List.length_singleton]
  | failed => rfl

end InTurn

namespace Script

/-- Whatever is replied, a script puts some requests in turn until one fails, and ends with the
failure. Where none fails it ends as `last` says. -/
inductive AsksInTurn (last : Except Failure α) : List Request → Script α → Prop
  | finish : AsksInTurn last [] (.finish last)
  | note {path : String} {entry : Entry} {requests : List Request} {next : Script α}
      (goesOn : AsksInTurn last requests next) : AsksInTurn last requests (.note path entry next)
  | ask {r : Request} {requests : List Request} {next : Except Failure Value → Script α}
      (stops : ∀ failure, next (.error failure) = .fail failure)
      (goesOn : ∀ value, AsksInTurn last requests (next (.ok value))) :
      AsksInTurn last (r :: requests) (.ask r next)

theorem asksInTurn_request (r : Request) :
    AsksInTurn (.ok ()) [r] (do let _ ← Script.request r) :=
  .ask (fun _ => rfl) fun _ => .finish

namespace AsksInTurn

variable {requests later : List Request} {script : Script α} {f : α → Script β} {a : α}
  {last : Except Failure β} {failure : Failure}

/-- Two scripts in turn put the requests of both. -/
theorem bind (first : AsksInTurn (.ok a) requests script) (second : AsksInTurn last later (f a)) :
    AsksInTurn last (requests ++ later) (script.bind f) := by
  induction first with
  | finish => exact second
  | note _ ih => exact .note ih
  | ask stops _ ih =>
      refine .ask (fun failure => ?_) ih
      rw [stops]
      rfl

/-- Behind a script that fails in the end nothing is asked. -/
theorem bind_error (first : AsksInTurn (.error failure) requests script) :
    AsksInTurn (.error failure) requests (script.bind f) := by
  induction first with
  | finish => exact .finish
  | note _ ih => exact .note ih
  | ask stops _ ih =>
      refine .ask (fun failure => ?_) ih
      rw [stops]
      rfl

/-- An answer behind a script is what it ends with. -/
theorem answered (first : AsksInTurn (.ok a) requests script) (answer : α → β) :
    AsksInTurn (.ok (answer a)) requests (script.bind fun a => .finish (.ok (answer a))) := by
  have both := first.bind (f := fun a => .finish (.ok (answer a))) .finish
  rwa [List.append_nil] at both

/-- A script for each item puts the requests of all items. -/
theorem forEach {f : α → Script Unit} (requests : α → List Request)
    (each : ∀ a, AsksInTurn (.ok ()) (requests a) (f a)) (items : List α) :
    AsksInTurn (.ok ()) (items.flatMap requests) (forEach items f) := by
  induction items with
  | nil => exact .finish
  | cons a rest ih => exact (each a).bind ih

/-- A run of such a script puts its requests in turn. -/
theorem inTurn {last : Except Failure α} (asks : AsksInTurn last requests script) {σ : Type}
    (host : Host σ) (stage : Stage σ) :
    InTurn last requests (exchanges (script.moments host stage)) (script.run host stage).1 := by
  induction asks generalizing stage with
  | finish => exact .done
  | note _ ih => exact ih _
  | @ask r _ next stops _ ih =>
      rw [moments, run, exchanges_append, Stage.exchanges_moments]
      rcases stage.perform host r with ⟨failure | value, after⟩
      · simp only [stops, fail, moments, run, exchanges_nil, List.append_nil]
        exact .failed
      · exact .answered (ih value after)

/-- Where none of the requests is about a subscription, none is put that is. -/
theorem plain {last : Except Failure α} (asks : AsksInTurn last requests script)
    (none : NoneSubscribes requests) {σ : Type} (host : Host σ) (stage : Stage σ) :
    ∀ exchange ∈ exchanges (script.moments host stage), exchange.1.subscribes = false := by
  intro exchange member
  have asked := (asks.inTurn host stage).asked_first
  exact none exchange.1 (asked.subset (List.mem_map_of_mem member))

/-- A script without requests always ends in the same way. -/
theorem run_none {last : Except Failure α} (asks : AsksInTurn last [] script) {σ : Type}
    (host : Host σ) (stage : Stage σ) : (script.run host stage).1 = last :=
  (asks.inTurn host stage).of_nil.2

/-- Up to the first request nothing but the journal changes. -/
theorem run_single {last : Except Failure α} {r : Request} (asks : AsksInTurn last [r] script)
    {σ : Type} (host : Host σ) (stage : Stage σ) :
    ∃ journal, (script.run host stage).1 =
      (Stage.perform host r { stage with journal := journal }).1.bind fun _ => last := by
  generalize listed : [r] = requests at asks
  induction asks generalizing stage with
  | finish => cases listed
  | note _ ih => exact ih (stage.written _ _) listed
  | ask stops goesOn _ =>
      obtain ⟨rfl, rfl⟩ := List.cons.inj listed
      refine ⟨stage.journal, ?_⟩
      rw [run]
      rcases Stage.perform host r stage with ⟨failure | value, after⟩
      · simp only [stops]
        rfl
      · exact (goesOn value).run_none host after

end AsksInTurn

/-! ### Scripts that check first -/

/-- A script settles what there is to settle before its first request: it fails without asking for
anything, or it puts requests as allowed and fails only where one of them does. -/
inductive ChecksFirst (allowed : List Request → Prop) (script : Script α) : Prop
  | turnsDown {failure : Failure} (asks : AsksInTurn (.error failure) [] script)
  | carriesOut {requests : List Request} {a : α} (fits : allowed requests)
      (asks : AsksInTurn (.ok a) requests script)

namespace ChecksFirst

variable {allowed other : List Request → Prop} {script : Script α}

theorem mono (checks : script.ChecksFirst allowed)
    (weaker : ∀ requests, allowed requests → other requests) : script.ChecksFirst other := by
  cases checks with
  | turnsDown asks => exact .turnsDown asks
  | carriesOut fits asks => exact .carriesOut (weaker _ fits) asks

/-- What is given outright is checked before anything behind it. -/
theorem behind {result : Except Failure α} {f : α → Script β}
    (goesOn : ∀ a, result = .ok a → (f a).ChecksFirst allowed) :
    ((ofExcept result).bind f).ChecksFirst allowed := by
  cases result with
  | error failure => exact .turnsDown .finish
  | ok a => exact goesOn a rfl

/-- An answer behind a script changes nothing of it. -/
theorem answered (checks : script.ChecksFirst allowed) (answer : α → β) :
    (script.bind fun a => .finish (.ok (answer a))).ChecksFirst allowed := by
  cases checks with
  | turnsDown asks => exact .turnsDown asks.bind_error
  | carriesOut fits asks => exact .carriesOut fits (asks.answered answer)

/-- Whatever it comes to, a script that checks first asks for no subscription if none is allowed. -/
theorem plain (checks : script.ChecksFirst NoneSubscribes) {σ : Type} (host : Host σ)
    (stage : Stage σ) :
    ∀ exchange ∈ exchanges (script.moments host stage), exchange.1.subscribes = false := by
  cases checks with
  | turnsDown asks => exact asks.plain noneSubscribes_nil host stage
  | carriesOut fits asks => exact asks.plain fits host stage

end ChecksFirst

end Script

end Cartography
