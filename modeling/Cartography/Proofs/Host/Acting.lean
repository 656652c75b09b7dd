import Cartography.Proofs.Host.Asking

/-!
# What a script does of its own

A script puts requests and notes entries. Among the moments of a run these are its acts, and what
the host and its listeners do meanwhile is none of them. A loop that puts one request for each item
does all that belongs to an item before it goes on to the next one, and the item whose request fails
is the last one.

## Implementation notes

`exchanges` tells the requests with their replies, and `acts` tells the requests among the entries.
How far a run comes is told by the number of the exchanges.
-/

namespace Cartography

/-- What a script does of its own: it puts a request, or hands an entry to a logger. -/
inductive Act
  | asks (r : Request)
  | notes (path : String) (entry : Entry)

/-- The act that a moment is, if it is one. -/
def Moment.act? : Moment → Option Act
  | asked r _ _ _ => some (.asks r)
  | noted path entry => some (.notes path entry)
  | _ => none

/-- What a script does in some moments, in turn. -/
def acts (moments : List Moment) : List Act := moments.filterMap Moment.act?

@[simp] theorem acts_nil : acts [] = [] := rfl

@[simp] theorem acts_asked (r : Request) (reply : Except Failure Value) (heeded : Bool)
    (listeners : Listeners) (moments : List Moment) :
    acts (.asked r reply heeded listeners :: moments) = .asks r :: acts moments := rfl

@[simp] theorem acts_fired (event : String) (payload : Value) (moments : List Moment) :
    acts (.fired event payload :: moments) = acts moments := rfl

@[simp] theorem acts_told (listener : Listener) (payload : Value) (moments : List Moment) :
    acts (.told listener payload :: moments) = acts moments := rfl

@[simp] theorem acts_noted (path : String) (entry : Entry) (moments : List Moment) :
    acts (.noted path entry :: moments) = .notes path entry :: acts moments := rfl

@[simp] theorem acts_append (moments later : List Moment) :
    acts (moments ++ later) = acts moments ++ acts later :=
  List.filterMap_append

namespace Stage

variable {σ : Type}

@[simp] theorem acts_tellings (payload : Value) (subscriptions : List Subscription) :
    acts (tellings payload subscriptions) = [] := by
  induction subscriptions with
  | nil => rfl
  | cons s rest ih =>
      rw [tellings]
      split <;> simp [ih]

@[simp] theorem acts_tellingsAll (events : List (String × Value)) (stage : Stage σ) :
    acts (tellingsAll events stage) = [] := by
  induction events generalizing stage with
  | nil => rfl
  | cons fired rest ih =>
      rw [tellingsAll]
      split <;> simp [ih]

/-- Of the moments of a request only the request itself is an act. -/
@[simp] theorem acts_moments (host : Host σ) (r : Request) (stage : Stage σ) :
    acts (stage.moments host r) = [.asks r] := by
  simp [moments]

end Stage

/-! ### Loops -/

namespace Script

variable {α β γ ι κ : Type}

theorem bind_assoc (script : Script α) (f : α → Script β) (g : β → Script γ) :
    (script.bind f).bind g = script.bind fun a => (f a).bind g := by
  induction script with
  | finish result => cases result <;> rfl
  | ask r next ih => exact congrArg (Script.ask r) (funext ih)
  | note path entry next ih => exact congrArg (Script.note path entry) ih
  | call listener next ih => exact congrArg (Script.call listener) (funext ih)

theorem forEach_append (items later : List ι) (f : ι → Script Unit) :
    forEach (items ++ later) f = (forEach items f).bind fun _ => forEach later f := by
  induction items with
  | nil => rfl
  | cons a rest ih =>
      rw [List.cons_append, forEach, forEach, ih, bind_assoc]

/-- A loop in a loop is a single one. -/
theorem forEach_flatMap (items : List ι) (inner : ι → List κ) (f : κ → Script Unit) :
    forEach (items.flatMap inner) f = forEach items fun a => forEach (inner a) f := by
  induction items with
  | nil => rfl
  | cons a rest ih => rw [List.flatMap_cons, forEach_append, forEach, ih]

theorem forEach_map (items : List ι) (g : ι → κ) (f : κ → Script Unit) :
    forEach (items.map g) f = forEach items fun a => f (g a) := by
  induction items with
  | nil => rfl
  | cons a rest ih => rw [List.map_cons, forEach, forEach, ih]

/-- A loop with one request for each item does what belongs to the items, up to the last one that
it asks for. -/
theorem acts_forEach {f : ι → Script Unit} {request : ι → Request} {does : ι → List Act}
    {σ : Type} (host : Host σ)
    (asks : ∀ i, (f i).AsksInTurn (.ok ()) [request i])
    (acting : ∀ i stage, acts ((f i).moments host stage) = does i) (items : List ι)
    (stage : Stage σ) :
    acts ((forEach items f).moments host stage) =
      (items.take (exchanges ((forEach items f).moments host stage)).length).flatMap does := by
  induction items generalizing stage with
  | nil => rfl
  | cons i rest ih =>
      have single := ((asks i).inTurn host stage).length_of_single
      rw [forEach, moments_bind, acts_append, exchanges_append, List.length_append, single,
        Nat.add_comm, List.take_succ_cons, List.flatMap_cons, acting]
      rcases (f i).run host stage with ⟨failure | ⟨⟩, after⟩
      · simp
      · exact congrArg _ (ih after)

end Script

end Cartography
