import Cartography.Proofs.Host.Acting
import Cartography.Proofs.Host.LastValue
import Cartography.Proofs.Toolkit.Subscribing

/-!
# Setting properties in batches

Several properties are set on several layers, layer by layer, with one request for each pair of a
layer and a property. Where the host keeps the last value of each property, it makes no difference
whether the batch is set at once, one property at a time or one layer at a time.

## Implementation notes

The two loops of a batch are one loop over its `sendings`. The order of these matters to a host that
keeps the last values only among those to one layer, and there it is always the order of the
properties. A layer that is named twice has the same written to it twice.
-/

namespace Cartography

/-- An argument names layers: one id, or any list of ids. -/
inductive NamesLayers : Value → List String → Prop
  | one (id : String) : NamesLayers (.text id) [id]
  | several (ids : List String) : NamesLayers (.texts ids) ids

theorem NamesLayers.ofValue_eq {layers : Value} {ids : List String}
    (names : NamesLayers layers ids) : Identifiers.ofValue layers = .ok ids := by
  cases names with
  | one id => rfl
  | several =>
      have all : Identifiers.allTexts? (ids.map .text) = some ids := by
        induction ids with
        | nil => rfl
        | cons id rest ih => rw [List.map_cons, Identifiers.allTexts?, ih, Option.map_some]
      rw [Value.texts, Identifiers.ofValue, all]

/-- A property is sent to a layer, under a name in any spelling. -/
structure Sending where
  layer : String
  name : String
  value : Value

namespace Sending

/-- The name of the property in kebab case. -/
def canonical (s : Sending) : String := PropertyName.kebab s.name

/-- The half of the layer that the property is sent to: layout, but for a paint property. -/
def half (s : Sending) : Half := if s.canonical ∈ paintNames then .paint else .layout

/-- What is written to the layer. -/
def write (s : Sending) : Write := ⟨⟨s.layer, s.half, s.canonical⟩, s.value⟩

/-- What is done for it: one request, behind a warning where the name is in neither table. -/
def acts (s : Sending) : List Act :=
  if s.canonical ∈ paintNames ∨ s.canonical ∈ layoutNames then [.asks s.write.request]
  else [.notes Stage.logger (Toolkit.unknownProperty s.layer s.name s.canonical),
    .asks s.write.request]

/-- The part of a batch that sends the property. -/
def script (s : Sending) : Script Unit := Toolkit.sendProperty s.layer (.text s.name) s.value

/-- What the tables make of a sending: its category, its half, and whether there is a warning. -/
theorem by_tables (s : Sending) :
    ((classify s.name).category = .paint ∧ s.half = .paint ∧ s.acts = [.asks s.write.request]) ∨
      ((classify s.name).category = .layout ∧ s.half = .layout ∧
        s.acts = [.asks s.write.request]) ∨
      (classify s.name).category = .none ∧ s.half = .layout ∧
        s.acts = [.notes Stage.logger (Toolkit.unknownProperty s.layer s.name s.canonical),
          .asks s.write.request] := by
  by_cases paint : s.canonical ∈ paintNames
  · exact Or.inl ⟨if_pos paint, if_pos paint, if_pos (Or.inl paint)⟩
  by_cases layout : s.canonical ∈ layoutNames
  · exact Or.inr (Or.inl ⟨(if_neg paint).trans (if_pos layout), if_neg paint,
      if_pos (Or.inr layout)⟩)
  · exact Or.inr (Or.inr ⟨(if_neg paint).trans (if_neg layout), if_neg paint,
      if_neg (not_or.mpr ⟨paint, layout⟩)⟩)

theorem sent_eq (s : Sending) : Toolkit.sent s.layer s.name s.value = s.write.request := by
  simp only [Toolkit.sent, Write.request, write]
  rcases s.by_tables with ⟨category, half, -⟩ | ⟨category, half, -⟩ | ⟨category, half, -⟩ <;>
  · rw [category, half]
    rfl

theorem asksInTurn_script (s : Sending) :
    s.script.AsksInTurn (.ok ()) [s.write.request] := by
  rw [← sent_eq]
  exact Toolkit.asksInTurn_sendProperty s.layer s.name s.value

theorem acts_script (s : Sending) {σ : Type} (host : Host σ) (stage : Stage σ) :
    Cartography.acts (s.script.moments host stage) = s.acts := by
  have asks (r : Request) (stage : Stage σ) :
      Cartography.acts ((do let _ ← Script.request r : Script Unit).moments host stage) =
        [.asks r] := by
    rw [Script.moments_request_unit, Stage.acts_moments]
  rw [script, Toolkit.sendProperty]
  rcases s.by_tables with ⟨category, half, acts⟩ | ⟨category, half, acts⟩ | ⟨category, half, acts⟩
  · simp only [category, acts, Write.request, write, half]
    exact asks _ stage
  · simp only [category, acts, Write.request, write, half]
    exact asks _ stage
  · simp only [category, acts, Write.request, write, half]
    exact (acts_noted _ _ _).trans (congrArg _ (asks _ (stage.written _ _)))

end Sending

/-- What a batch sends, layer by layer and for each layer property by property. -/
def sendings (ids : List String) (properties : Fields) : List Sending :=
  ids.flatMap fun id => properties.map fun entry => ⟨id, entry.1, entry.2⟩

/-- What a batch writes. -/
def writes (ids : List String) (properties : Fields) : List Write :=
  (sendings ids properties).map Sending.write

/-- What is to be sent is sent in turn. For as many sendings as there are requests all is done that
belongs to them, and nothing else. Where no request fails these are all sendings, and the result is
null. A request that fails is the last one, and its failure is the result. -/
structure SentInTurn (sendings : List Sending) (moments : List Moment)
    (result : Except Failure Answer) : Prop where
  acted : acts moments = (sendings.take (exchanges moments).length).flatMap Sending.acts
  completes : (∀ exchange ∈ exchanges moments, ∃ value, exchange.2 = .ok value) →
    (exchanges moments).length = sendings.length ∧ result = .ok (.value .null)
  stops : ∀ (k : Nat) (r : Request) (failure : Failure),
    (exchanges moments)[k]? = some (r, .error failure) →
      (exchanges moments).length = k + 1 ∧ result = .error failure

/-! ### A batch as one loop -/

/-- The two loops of a batch are one loop over what is sent. -/
theorem Toolkit.setProperty_eq {layers : Value} {ids : List String}
    (names : NamesLayers layers ids) (properties : Fields) (value : Value) :
    setProperty layers (.mapping properties) value =
      Script.forEach (sendings ids properties) Sending.script := by
  have loops : setProperty layers (.mapping properties) value = Script.forEach ids fun id =>
      Script.forEach (properties.map fun entry => (Value.text entry.1, entry.2)) fun entry =>
        sendProperty id entry.1 entry.2 := by
    rw [setProperty, names.ofValue_eq]
    rfl
  rw [loops, sendings, Script.forEach_flatMap]
  refine congrArg _ (funext fun id => ?_)
  rw [Script.forEach_map, Script.forEach_map]
  rfl

/-! ### The order of the writes -/

theorem writes_cons_id (id : String) (rest : List String) (properties : Fields) :
    writes (id :: rest) properties = writes [id] properties ++ writes rest properties := by
  simp [writes, sendings]

theorem writes_flatMap (ids : List String) (properties : Fields) :
    (ids.flatMap fun id => writes [id] properties) = writes ids properties := by
  simp [writes, sendings, List.map_flatMap]

theorem writes_cons_property (id : String) (entry : String × Value) (rest : Fields) :
    writes [id] (entry :: rest) = writes [id] [entry] ++ writes [id] rest := by
  simp [writes, sendings]

/-- What is written to one layer counts for no slot of another one. -/
theorem lastAt_writes_of_ne {slot : Slot} {id : String} (other : slot.layer ≠ id)
    (properties : Fields) : lastAt slot (writes [id] properties) = none := by
  refine lastAt_eq_none fun w member same => other ?_
  simp only [writes, sendings, List.flatMap_singleton, List.map_map, List.mem_map] at member
  obtain ⟨entry, -, rfl⟩ := member
  rw [← same]
  rfl

/-- Layer by layer, a slot is left with what is written to its own layer, if that is among them. -/
theorem lastAt_writes (slot : Slot) (ids : List String) (properties : Fields) :
    lastAt slot (writes ids properties) =
      if slot.layer ∈ ids then lastAt slot (writes [slot.layer] properties) else none := by
  induction ids with
  | nil => rfl
  | cons id rest ih =>
      rw [writes_cons_id, lastAt_append, ih]
      by_cases own : slot.layer = id
      · -- once more in the rest, the layer has the same written to it again
        rw [← own, if_pos List.mem_cons_self]
        split
        · exact Option.or_self
        · exact Option.none_or
      · rw [lastAt_writes_of_ne own, Option.or_none]
        simp only [List.mem_cons, own, false_or]

/-- Property by property, a slot is left with the same. -/
theorem lastAt_byProperty (slot : Slot) (ids : List String) (properties : Fields) :
    lastAt slot (properties.flatMap fun entry => writes ids [entry]) =
      lastAt slot (writes ids properties) := by
  rw [lastAt_writes]
  induction properties with
  | nil => exact (ite_self none).symm
  | cons entry rest ih =>
      rw [List.flatMap_cons, lastAt_append, ih, lastAt_writes slot ids [entry]]
      by_cases named : slot.layer ∈ ids
      · rw [if_pos named, if_pos named, if_pos named, writes_cons_property _ entry rest,
          lastAt_append]
      · rw [if_neg named, if_neg named, if_neg named]
        rfl

/-! ### Calls -/

namespace Call

/-- Properties are set on layers. -/
def setProperties (layers : Value) (properties : Fields) : Call :=
  .onToolkit "set_property" [layers, .mapping properties] []

/-- A single property is set on layers. -/
def setProperty (layers : Value) (name : String) (value : Value) : Call :=
  .onToolkit "set_property" [layers, .text name, value] []

variable {layers : Value} {ids : List String}

theorem script_setProperties (settings : Settings) (names : NamesLayers layers ids)
    (properties : Fields) :
    (setProperties layers properties).script settings =
      Command.silent (Script.forEach (sendings ids properties) Sending.script) := by
  rw [← Toolkit.setProperty_eq names properties .null]
  rfl

theorem script_setProperty (settings : Settings) (names : NamesLayers layers ids) (name : String)
    (value : Value) :
    (setProperty layers name value).script settings =
      Command.silent (Script.forEach (sendings ids [(name, value)]) Sending.script) := by
  rw [← Toolkit.setProperty_eq names [(name, value)] value]
  rfl

/-- A batch asks for what it writes. -/
theorem asksInTurn_batch (ids : List String) (properties : Fields) :
    (Command.silent (Script.forEach (sendings ids properties) Sending.script)).AsksInTurn
      (.ok (.value .null)) ((writes ids properties).map Write.request) := by
  have loop := Script.AsksInTurn.forEach (fun s : Sending => [s.write.request])
    Sending.asksInTurn_script (sendings ids properties)
  rw [← List.map_eq_flatMap] at loop
  rw [writes, List.map_map]
  exact loop.answered fun _ => Answer.value .null

/-- Calls in turn ask for what each of them writes. -/
theorem asksInTurn_scripts {ι : Type} {settings : Settings} {call : ι → Call}
    {written : ι → List Write}
    (each : ∀ i, ((call i).script settings).AsksInTurn (.ok (.value .null))
      ((written i).map Write.request)) (items : List ι) :
    (scripts settings (items.map call)).AsksInTurn (.ok ())
      ((items.flatMap written).map Write.request) := by
  rw [scripts, Script.forEach_map, List.map_flatMap]
  exact .forEach _ (fun i => (each i).answered fun _ => ()) items

/-- A batch sends its properties in turn. -/
theorem sentInTurn_setProperties (settings : Settings) (names : NamesLayers layers ids)
    (properties : Fields) {σ : Type} (host : Host σ) (stage : Stage σ) :
    SentInTurn (sendings ids properties)
      (((setProperties layers properties).script settings).moments host stage)
      (((setProperties layers properties).script settings).run host stage).1 := by
  rw [script_setProperties settings names]
  have turn := (asksInTurn_batch ids properties).inTurn host stage
  constructor
  · rw [Command.moments_silent]
    exact Script.acts_forEach host Sending.asksInTurn_script
      (fun s => s.acts_script host) (sendings ids properties) stage
  · intro accepted
    obtain ⟨asked, ended⟩ := turn.all_of_accepted accepted
    refine ⟨?_, ended⟩
    simpa [writes] using congrArg List.length asked
  · exact fun k r failure replied => turn.stops replied

/-! ### What is left on a host -/

section Keeping

variable (settings : Settings) {σ : Type} {host : Host σ} {view : σ → Slot → Option Value}

/-- A batch leaves what it writes. -/
theorem view_setProperties (names : NamesLayers layers ids) (properties : Fields)
    (keeps : host.KeepsLast view) (stage : Stage σ) :
    view (((setProperties layers properties).script settings).run host stage).2.host =
      replay (writes ids properties) (view stage.host) := by
  rw [script_setProperties settings names]
  exact keeps.view_run (asksInTurn_batch ids properties) stage

/-- Properties that are set one at a time leave the same. -/
theorem view_byProperty (names : NamesLayers layers ids) (properties : Fields)
    (keeps : host.KeepsLast view) (stage : Stage σ) :
    view ((scripts settings (properties.map fun entry =>
        setProperty layers entry.1 entry.2)).run host stage).2.host =
      replay (writes ids properties) (view stage.host) := by
  have asksEach (entry : String × Value) :
      ((setProperty layers entry.1 entry.2).script settings).AsksInTurn (.ok (.value .null))
        ((writes ids [entry]).map Write.request) := by
    rw [script_setProperty settings names]
    exact asksInTurn_batch ids [entry]
  rw [keeps.view_run (asksInTurn_scripts asksEach properties) stage,
    replay_congr (lastAt_byProperty · ids properties)]

/-- So do properties that are set on one layer at a time, which is how a batch goes anyway. -/
theorem view_byLayer (ids : List String) (properties : Fields) (keeps : host.KeepsLast view)
    (stage : Stage σ) :
    view ((scripts settings (ids.map fun id =>
        setProperties (.text id) properties)).run host stage).2.host =
      replay (writes ids properties) (view stage.host) := by
  have asksEach (id : String) :
      ((setProperties (.text id) properties).script settings).AsksInTurn (.ok (.value .null))
        ((writes [id] properties).map Write.request) := by
    rw [script_setProperties settings (.one id)]
    exact asksInTurn_batch [id] properties
  rw [keeps.view_run (asksInTurn_scripts asksEach ids) stage, writes_flatMap]

end Keeping

/-- **Properties are set in turn, and in any order.** On every host a batch sends each property to
each layer, layer by layer, up to the first request that fails. On a host that keeps the last value
of each property, the same is left by setting the properties one at a time, and by setting them on
the layers one at a time. -/
theorem set_property_batch (settings : Settings) (names : NamesLayers layers ids)
    (properties : Fields) :
    (∀ (σ : Type) (host : Host σ) (stage : Stage σ),
      SentInTurn (sendings ids properties)
        (((setProperties layers properties).script settings).moments host stage)
        (((setProperties layers properties).script settings).run host stage).1) ∧
      ∀ (σ : Type) (host : Host σ) (view : σ → Slot → Option Value), host.KeepsLast view →
        ∀ stage : Stage σ,
          let left := view (((setProperties layers properties).script settings).run host
            stage).2.host
          view ((scripts settings (properties.map fun entry =>
            setProperty layers entry.1 entry.2)).run host stage).2.host = left ∧
          view ((scripts settings (ids.map fun id =>
            setProperties (.text id) properties)).run host stage).2.host = left := by
  refine ⟨fun σ host stage => ?_, fun σ host view keeps stage => ?_⟩
  · exact sentInTurn_setProperties settings names properties host stage
  · have batch := view_setProperties settings names properties keeps stage
    constructor
    · exact (view_byProperty settings names properties keeps stage).trans batch.symm
    · exact (view_byLayer settings ids properties keeps stage).trans batch.symm

/-- Of two layers one is named twice, and of two properties one is spelled twice. The last spelling
counts, and a name that is in neither table is kept in the layout half. -/
theorem set_property_batch_on_roads :
    let ids : List String := ["casing", "roads", "casing"]
    let properties : Fields := [("lineWidth", .integer 1), ("sourceLayer", .text "streets"),
      ("line-width", .integer 2)]
    let stage : Stage (Slot → Option Value) := ⟨fun _ => none, [], [], [], .empty⟩
    let batch := (setProperties (.texts ids) properties).script .standard
    let left := (batch.run .keeping stage).2.host
    (NamesLayers (.texts ids) ids ∧ Host.keeping.KeepsLast id) ∧
      SentInTurn (sendings ids properties) (batch.moments .keeping stage)
        (batch.run .keeping stage).1 ∧
      ((scripts .standard (properties.map fun entry =>
        setProperty (.texts ids) entry.1 entry.2)).run .keeping stage).2.host = left ∧
      ((scripts .standard (ids.map fun id =>
        setProperties (.text id) properties)).run .keeping stage).2.host = left ∧
      left ⟨"roads", .paint, "line-width"⟩ = some (.integer 2) ∧
      left ⟨"roads", .layout, "source-layer"⟩ = some (.text "streets") := by
  intro ids properties stage batch left
  obtain ⟨sent, kept⟩ := set_property_batch .standard (.several ids) properties
  obtain ⟨byProperty, byLayer⟩ := kept _ .keeping id Host.keepsLast_keeping stage
  exact ⟨⟨.several ids, Host.keepsLast_keeping⟩, sent _ .keeping stage, byProperty, byLayer,
    rfl, rfl⟩

end Call

end Cartography
