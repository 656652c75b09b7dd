import Cartography.Proofs.Host.Asking
import Mathlib.Logic.Function.Basic

/-!
# Hosts that keep the last value

A host may do no more about the properties of layers than keep, for every property, the value that
it was given last. What such a host holds after a run comes down to the last write to each slot.

## Implementation notes

A host keeps what it likes besides, and `view` is what can be seen of the properties in its state.
Only the last write to each slot counts (`replay_congr`), so that writes to different slots can
change places and a write can be made again.
-/

namespace Cartography

/-- The halves of a layer that have properties. -/
inductive Half
  | paint
  | layout
  deriving DecidableEq

/-- Where a property of a layer is kept. -/
structure Slot where
  layer : String
  half : Half
  name : String
  deriving DecidableEq

/-- A property of a layer is given a value. -/
structure Write where
  slot : Slot
  value : Value

namespace Write

/-- The request for a write. -/
def request (w : Write) : Request :=
  match w.slot.half with
  | .paint => .setPaintProperty (.text w.slot.layer) (.text w.slot.name) w.value
  | .layout => .setLayoutProperty (.text w.slot.layer) (.text w.slot.name) w.value

/-- What a slot holds by a write, if the write is to the slot. -/
def at? (slot : Slot) (w : Write) : Option Value := if w.slot = slot then some w.value else none

end Write

/-- What is held after some writes. -/
def replay (writes : List Write) (held : Slot → Option Value) : Slot → Option Value :=
  writes.foldl (fun held w => Function.update held w.slot (some w.value)) held

/-- The value of the last one of some writes that is to a slot. -/
def lastAt (slot : Slot) (writes : List Write) : Option Value :=
  writes.reverse.findSome? (Write.at? slot)

@[simp] theorem lastAt_append (slot : Slot) (writes later : List Write) :
    lastAt slot (writes ++ later) = (lastAt slot later).or (lastAt slot writes) := by
  rw [lastAt, List.reverse_append, List.findSome?_append]
  rfl

theorem lastAt_cons (slot : Slot) (w : Write) (rest : List Write) :
    lastAt slot (w :: rest) = (lastAt slot rest).or (w.at? slot) := by
  have alone : lastAt slot [w] = w.at? slot := by
    simp [lastAt]
  rw [← alone]
  exact lastAt_append slot [w] rest

/-- Where no write is to a slot there is no last one. -/
theorem lastAt_eq_none {slot : Slot} {writes : List Write} (others : ∀ w ∈ writes, w.slot ≠ slot) :
    lastAt slot writes = none := by
  rw [lastAt, List.findSome?_eq_none_iff]
  intro w member
  exact if_neg (others w (List.mem_reverse.mp member))

/-- A slot holds the value of the last write to it, or what it held before. -/
theorem replay_apply (writes : List Write) (held : Slot → Option Value) (slot : Slot) :
    replay writes held slot = (lastAt slot writes).or (held slot) := by
  induction writes generalizing held with
  | nil => rfl
  | cons w rest ih =>
      have first : Function.update held w.slot (some w.value) slot =
          (w.at? slot).or (held slot) := by
        by_cases here : w.slot = slot
        · obtain rfl := here
          simp [Write.at?]
        · rw [Function.update_of_ne (Ne.symm here), Write.at?, if_neg here]
          rfl
      rw [replay, List.foldl_cons, ← replay, ih, first, lastAt_cons, Option.or_assoc]

/-- Writes with the same last value for each slot leave the same. -/
theorem replay_congr {writes others : List Write}
    (same : ∀ slot, lastAt slot writes = lastAt slot others) :
    replay writes = replay others := by
  funext held slot
  rw [replay_apply, replay_apply, same]

/-! ### Hosts -/

variable {σ α : Type}

/-- A host takes every write, fires nothing for it, and then holds the value that was written. -/
structure Host.KeepsLast (host : Host σ) (view : σ → Slot → Option Value) : Prop where
  accepts : ∀ state (w : Write), ∃ value, (host.react state w.request).outcome = .ok value
  quiet : ∀ state (w : Write), (host.react state w.request).events = []
  keeps : ∀ state (w : Write), view (host.react state w.request).state =
    Function.update (view state) w.slot (some w.value)

/-- A host that does nothing but keep the properties of layers. -/
def Host.keeping : Host (Slot → Option Value) where
  react held r :=
    match r with
    | .setPaintProperty (.text layer) (.text name) value =>
        { state := Function.update held ⟨layer, .paint, name⟩ (some value) }
    | .setLayoutProperty (.text layer) (.text name) value =>
        { state := Function.update held ⟨layer, .layout, name⟩ (some value) }
    | _ => { state := held }

theorem Host.keepsLast_keeping : keeping.KeepsLast id where
  accepts := by rintro held ⟨⟨layer, _ | _, name⟩, value⟩ <;> exact ⟨.null, rfl⟩
  quiet := by rintro held ⟨⟨layer, _ | _, name⟩, value⟩ <;> rfl
  keeps := by rintro held ⟨⟨layer, _ | _, name⟩, value⟩ <;> rfl

namespace Host.KeepsLast

variable {host : Host σ} {view : σ → Slot → Option Value}

/-- One write is taken and kept. -/
theorem perform_write (keeps : host.KeepsLast view) (w : Write) (stage : Stage σ) :
    (∃ value, (stage.perform host w.request).1 = .ok value) ∧
      view (stage.perform host w.request).2.host =
        Function.update (view stage.host) w.slot (some w.value) := by
  obtain ⟨value, accepted⟩ := keeps.accepts (stage.happened (.request w.request)).host w
  have kept := keeps.keeps (stage.happened (.request w.request)).host w
  simp only [Stage.perform, keeps.quiet, accepted, Stage.fireAll]
  split <;> exact ⟨⟨value, rfl⟩, kept⟩

/-- A script that asks for writes leaves what they come to. -/
theorem view_run (keeps : host.KeepsLast view) {last : Except Failure α} {script : Script α}
    {writes : List Write} (asks : script.AsksInTurn last (writes.map Write.request))
    (stage : Stage σ) :
    view (script.run host stage).2.host = replay writes (view stage.host) := by
  generalize listed : writes.map Write.request = requests at asks
  induction asks generalizing writes stage with
  | finish =>
      obtain rfl := List.map_eq_nil_iff.mp listed
      rfl
  | note _ ih => exact ih (stage.written _ _) listed
  | ask stops goesOn ih =>
      obtain ⟨w, rest, rfl, rfl, others⟩ := List.map_eq_cons_iff.mp listed
      obtain ⟨⟨value, taken⟩, kept⟩ := keeps.perform_write w stage
      rw [Script.run]
      rcases performed : Stage.perform host w.request stage with ⟨reply, after⟩
      rw [performed] at taken kept
      obtain rfl := taken
      rw [replay, List.foldl_cons, ← replay, ← kept]
      exact ih value after others

end Host.KeepsLast

end Cartography
