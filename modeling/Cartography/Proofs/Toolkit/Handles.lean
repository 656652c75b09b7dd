import Cartography.Proofs.Toolkit.CheckingFirst
import Cartography.Proofs.Toolkit.ExplicitFields
import Cartography.Proofs.Toolkit.Registering

/-!
# Handles

A handle on a source is a shorthand. Where the name of the source stands for the source itself, to
add layers on the handle comes to the same as to add them on the toolkit with the name given each
time, in what is asked and noted as in what fails, however many calls are chained. A handle differs
where the name would stand for something else: it takes the name as it is.

## Implementation notes

Both ways of adding a layer end with the same script once the layer is built. The layers are built
apart, and `build_text` is where the two meet.
-/

namespace Cartography

/-! ### Scripts that come to the same -/

namespace Script

variable {α β γ δ : Type}

/-- A script comes to the same as another one on every host, moment by moment. Where the other one
returns, it answers with a value of its own. -/
def Echoes (script : Script α) (other : Script β) (answer : α) : Prop :=
  ∀ (σ : Type) (host : Host σ) (stage : Stage σ),
    script.run host stage =
        ((other.run host stage).1.map fun _ => answer, (other.run host stage).2) ∧
      script.moments host stage = other.moments host stage

/-- Scripts that differ in their answers only come to the same. -/
theorem echoes_answered (script : Script γ) (answer : α) (other : β) :
    (script.bind fun _ => .finish (.ok answer)).Echoes (script.bind fun _ => .finish (.ok other))
      answer := by
  intro σ host stage
  constructor
  · rw [run_bind, run_bind]
    rcases script.run host stage with ⟨failure | value, after⟩ <;> rfl
  · rw [moments_bind, moments_bind]
    rcases script.run host stage with ⟨failure | value, after⟩ <;> rfl

/-- So do scripts in turn, if the first ones do and what comes behind them. -/
theorem Echoes.bind {script : Script α} {other : Script β} {answer : α} {f : α → Script γ}
    {g : β → Script δ} {last : γ} (first : script.Echoes other answer)
    (second : ∀ b, (f answer).Echoes (g b) last) : (script.bind f).Echoes (other.bind g) last := by
  intro σ host stage
  obtain ⟨ran, told⟩ := first σ host stage
  rw [run_bind, run_bind, moments_bind, moments_bind, ran, told]
  rcases other.run host stage with ⟨failure | b, after⟩
  · exact ⟨rfl, rfl⟩
  · obtain ⟨ranOn, toldOn⟩ := second b σ host after
    exact ⟨ranOn, congrArg _ toldOn⟩

end Script

/-! ### Layers on a source -/

/-- A layer is added on a source: with a type, or by an operation whose name stands for the type.
The properties may be of any kind, and may be left out. -/
inductive Addition
  | add (id kind : Value) (given : kind ≠ .null) (properties : Option Value)
  | addTyped (id : Value) {name kind : String} (listed : (name, kind) ∈ layerAdders)
      (properties : Option Value)

namespace Addition

/-- The operation that is called, on a handle as on a toolkit. -/
def name : Addition → String
  | add _ _ _ _ => "add"
  | @addTyped _ name _ _ _ => name

/-- The id of the layer. -/
def id : Addition → Value
  | add id _ _ _ | addTyped id _ _ => id

/-- The type of the layer. -/
def kind : Addition → Value
  | add _ kind _ _ => kind
  | @addTyped _ _ kind _ _ => .text kind

/-- The properties of the layer; null where they are left out. -/
def properties : Addition → Value
  | add _ _ _ properties | addTyped _ _ properties => properties.getD .null

/-- The arguments behind the id and, on a toolkit, the source. -/
def further : Addition → List Value
  | add _ kind _ properties => kind :: properties.toList
  | addTyped _ _ properties => properties.toList

/-- The layer is added on a toolkit, with the source given. -/
def onToolkit (source : Value) (a : Addition) : Call :=
  .onToolkit a.name (a.id :: source :: a.further) []

/-- The layer is added on the handle on a source. -/
def onHandle (source : Value) (a : Addition) : Call :=
  .onHandle source a.name (a.id :: a.further) []

/-- The layer is added on what an earlier call answered with. -/
def onAnswer (settings : Settings) (target : Answer) (a : Addition) : Script Answer :=
  (Script.ofExcept ((Callable.resolveOn target a.name).bind
    (·.apply (a.id :: a.further) []))).bind fun command => command.script settings

/-- Layers are added in a chain, each on the answer to the one before. -/
def chain (settings : Settings) : Answer → List Addition → Script Answer
  | target, [] => .finish (.ok target)
  | target, a :: rest => (a.onAnswer settings target).bind fun answer => chain settings answer rest

theorem kind_ne_null (a : Addition) : a.kind ≠ .null := by
  cases a with
  | add id kind given properties => exact given
  | addTyped id listed properties => exact Value.noConfusion

theorem command_onToolkit (source : Value) (a : Addition) :
    (a.onToolkit source).command = .ok (.addLayer a.id source a.kind a.properties) := by
  cases a with
  | add id kind given properties => cases properties <;> rfl
  | addTyped id listed properties =>
      rw [onToolkit, Call.command, name, LayerCall.resolve_of_listed listed]
      cases properties <;> rfl

theorem command_onHandle (source : Value) (a : Addition) :
    (a.onHandle source).command = .ok (.addBound source a.id a.kind a.properties) := by
  cases a with
  | add id kind given properties => cases properties <;> rfl
  | addTyped id listed properties =>
      rw [onHandle, Call.command, name, LayerCall.resolveOn_of_listed source listed]
      cases properties <;> rfl

/-! ### How the layers are built -/

/-- With a name for its source, a layer on a toolkit is built like one on a handle on what the name
stands for. -/
theorem build_text (settings : Settings) (source : String) (id properties : Value) {kind : Value}
    (given : kind ≠ .null) :
    Layer.build settings id (.text source) kind properties =
      Toolkit.boundLayer (SourceReference.ofText settings source).toValue id kind properties := by
  have typed : Layer.withField [("id", id)] "type" kind = [("id", id), ("type", kind)] := by
    cases kind <;> first | rfl | exact absurd rfl given
  have apart : Layer.split (.text source) kind properties = (.text source, kind, properties) := rfl
  rw [Layer.build, apart]
  simp only [typed, Toolkit.boundLayer, Layer.sourceField, SourceReference.infer]
  cases SourceReference.ofText settings source <;> cases Style.build properties <;> rfl

/-- The script of an addition: a layer is built and registered. -/
def registering (a : Addition) (source : Value) : Script Unit :=
  Toolkit.addBoundLayer source a.id a.kind a.properties

theorem script_onHandle (settings : Settings) (source : Value) (a : Addition) :
    (a.onHandle source).script settings = Command.handing source (a.registering source) := by
  rw [Call.script_of_ok settings (a.command_onHandle source)]
  rfl

theorem script_onToolkit (settings : Settings) (source : String) (a : Addition) :
    (a.onToolkit (.text source)).script settings =
      Command.silent (a.registering (SourceReference.ofText settings source).toValue) := by
  rw [Call.script_of_ok settings (a.command_onToolkit (.text source)), Command.script,
    Toolkit.addLayer, build_text settings source a.id a.properties a.kind_ne_null]
  rfl

/-! ### Names that stand for themselves -/

variable {settings : Settings} {source : String}

/-- A layer is added on a handle as it is on the toolkit with the same name. -/
theorem echoes_onToolkit
    (named : SourceReference.infer settings (.text source) = .ok (.named source)) (a : Addition) :
    ((a.onHandle (.text source)).script settings).Echoes
      ((a.onToolkit (.text source)).script settings) (.handle (.text source)) := by
  have same : SourceReference.ofText settings source = .named source := Except.ok.inj named
  rw [script_onHandle, script_onToolkit, same]
  exact Script.echoes_answered _ _ _

/-- So is a chain of layers. -/
theorem echoes_chain
    (named : SourceReference.infer settings (.text source) = .ok (.named source))
    (additions : List Addition) :
    (chain settings (.handle (.text source)) additions).Echoes
      (Call.scripts settings (additions.map (onToolkit (.text source))))
      (.handle (.text source)) := by
  induction additions with
  | nil => exact fun σ host stage => ⟨rfl, rfl⟩
  | cons a rest ih =>
      have first : ((a.onHandle (.text source)).script settings).Echoes
          (((a.onToolkit (.text source)).script settings).bind fun _ => .finish (.ok ()))
          (.handle (.text source)) := by
        intro σ host stage
        obtain ⟨ran, told⟩ := a.echoes_onToolkit named σ host stage
        rw [Script.run_bind, Script.moments_bind, ran, told]
        rcases ((a.onToolkit (.text source)).script settings).run host stage with
          ⟨failure | answer, after⟩
        · exact ⟨rfl, (List.append_nil _).symm⟩
        · exact ⟨rfl, (List.append_nil _).symm⟩
      exact first.bind fun _ => ih

/-! ### Names that stand for something else -/

/-- None of the properties is a source. -/
def NamesNoSource (a : Addition) : Prop :=
  ∀ fields, a.properties = .mapping fields → Fields.has fields "source" = false

/-- On every host a script asks for one thing, that a layer be added. -/
def AsksFor (script : Script Answer) (layer : Fields) : Prop :=
  ∀ (σ : Type) (host : Host σ) (stage : Stage σ),
    (script.run host stage).2.requests = stage.requests ++ [.addLayer (.mapping layer)]

/-- Two scripts fail alike before anything happens, or they ask for layers that differ in their
sources only: one on a tile set or on data, and one on the name as it is. -/
def DifferInSource (spec : Fields) (source : String) (standing named : Script Answer) : Prop :=
  (∃ failure, standing.TurnsDown failure ∧ named.TurnsDown failure) ∨
    ∃ layer : Fields, layer.get? "source" = some (.mapping spec) ∧ AsksFor standing layer ∧
      AsksFor named (layer.set "source" (.text source))

variable {a : Addition} {on : Value} {fields : Fields}

theorem turnsDown_of_error {failure : Failure}
    (failed : Toolkit.boundLayer on a.id a.kind a.properties = .error failure) (answer : Answer) :
    ((a.registering on).bind fun _ => .finish (.ok answer)).TurnsDown failure := by
  intro σ host stage
  rw [registering, Toolkit.addBoundLayer, failed]
  rfl

/-- A layer that is built is registered. -/
theorem registering_eq (made : Toolkit.boundLayer on a.id a.kind a.properties = .ok fields) :
    a.registering on = Toolkit.registerLayer (.mapping fields) := by
  rw [registering, Toolkit.addBoundLayer, made]
  rfl

theorem turnsDown_of_hidden (made : Toolkit.boundLayer on a.id a.kind a.properties = .ok fields)
    (hidden : ((fields.get? "id").getD .null).HoldsOversized) (answer : Answer) :
    ((a.registering on).bind fun _ => .finish (.ok answer)).TurnsDown (.oversizedInteger none) := by
  intro σ host stage
  rw [registering_eq made, Script.run_bind, Toolkit.run_registerLayer_hidden host stage hidden]

theorem asksFor_of_shown (made : Toolkit.boundLayer on a.id a.kind a.properties = .ok fields)
    (shown : ¬ ((fields.get? "id").getD .null).HoldsOversized) (answer : Answer) :
    AsksFor ((a.registering on).bind fun _ => .finish (.ok answer)) fields := by
  intro σ host stage
  rw [registering_eq made, Script.run_bind, ← Toolkit.requests_registerLayer host stage shown]
  rcases (Toolkit.registerLayer (.mapping fields)).run host stage with ⟨failure | ⟨⟩, after⟩ <;> rfl

/-- The style of properties without a source has none. -/
theorem ne_source_of_style (noSource : a.NamesNoSource) {style : Fields}
    (built : Style.build a.properties = .ok style) : ∀ entry ∈ style, entry.1 ≠ "source" := by
  cases given : a.properties with
  | null =>
      rw [given] at built
      obtain rfl := Except.ok.inj built
      exact fun entry member => absurd member List.not_mem_nil
  | mapping properties =>
      rw [given] at built
      obtain rfl := Except.ok.inj built
      have absent := noSource properties given
      have missing : (Style.ofProperties properties).toFields.last? "source" = none := by
        rw [LayerCall.last?_style (by simp), Fields.last?, Fields.get?_eq_none_iff]
        intro entry member
        exact Fields.has_eq_false_iff.mp absent entry (List.mem_reverse.mp member)
      rw [Fields.last?_of_distinct (Style.distinct_toFields properties)] at missing
      exact Fields.get?_eq_none_iff.mp missing
  | _ =>
      rw [given] at built
      cases built

/-- Layers without a source among their properties are built alike, but for the source itself. -/
theorem boundLayer_apart (noSource : a.NamesNoSource) {style : Fields}
    (built : Style.build a.properties = .ok style) (on other : Value) :
    ∃ layer : Fields, layer.get? "source" = some on ∧
      Toolkit.boundLayer on a.id a.kind a.properties = .ok layer ∧
      Toolkit.boundLayer other a.id a.kind a.properties = .ok (layer.set "source" other) := by
  have others := ne_source_of_style noSource built
  refine ⟨Fields.merge [("id", a.id), ("type", a.kind), ("source", on)] style, ?_, ?_, ?_⟩
  · rw [Fields.get?_merge, Fields.last?, Fields.get?_eq_none_iff.mpr fun entry member =>
      others entry (List.mem_reverse.mp member)]
    rfl
  · rw [Toolkit.boundLayer, built]
    rfl
  · rw [Toolkit.boundLayer, built, Fields.set_merge other rfl others]
    rfl

/-- Where the name of the source stands for something else, the layer on the toolkit is on that, and
the layer on the handle on the name. -/
theorem differInSource {settings : Settings} {source : String} {spec : Fields}
    (inferred : SourceReference.infer settings (.text source) = .ok (.inline spec))
    (noSource : a.NamesNoSource) :
    DifferInSource spec source ((a.onToolkit (.text source)).script settings)
      ((a.onHandle (.text source)).script settings) := by
  have stands : SourceReference.ofText settings source = .inline spec := Except.ok.inj inferred
  rw [script_onHandle, script_onToolkit, stands]
  cases built : Style.build a.properties with
  | error failure =>
      have failed (on : Value) :
          Toolkit.boundLayer on a.id a.kind a.properties = .error failure := by
        rw [Toolkit.boundLayer, built]
        rfl
      exact Or.inl ⟨failure, turnsDown_of_error (failed _) _, turnsDown_of_error (failed _) _⟩
  | ok style =>
      obtain ⟨layer, held, onToolkit, onHandle⟩ :=
        boundLayer_apart noSource built (.mapping spec) (.text source)
      have sameId : (layer.set "source" (.text source)).get? "id" = layer.get? "id" :=
        Fields.get?_set_of_ne layer _ (by decide)
      by_cases hidden : ((layer.get? "id").getD .null).HoldsOversized
      · exact Or.inl ⟨_, turnsDown_of_hidden onToolkit hidden _,
          turnsDown_of_hidden onHandle (sameId ▸ hidden) _⟩
      · exact Or.inr ⟨layer, held, asksFor_of_shown onToolkit hidden _,
          asksFor_of_shown onHandle (sameId ▸ hidden) _⟩

/-- **A handle is only a shorthand.** Where the name of a source stands for itself, a layer added on
the handle comes to the same on every host as one added on the toolkit with this source, with the
same failures, and answers with the handle; and so do any number of layers in a chain. Where the name
stands for something else, and the properties name no source of their own, the layer of the handle
has the name for its source and is otherwise the same. -/
theorem handle_is_shorthand (settings : Settings) (source : String) :
    (SourceReference.infer settings (.text source) = .ok (.named source) →
      (∀ a : Addition, ((a.onHandle (.text source)).script settings).Echoes
        ((a.onToolkit (.text source)).script settings) (.handle (.text source))) ∧
      ∀ additions : List Addition, (chain settings (.handle (.text source)) additions).Echoes
        (Call.scripts settings (additions.map (onToolkit (.text source))))
        (.handle (.text source))) ∧
      ∀ spec, SourceReference.infer settings (.text source) = .ok (.inline spec) →
        ∀ a : Addition, a.NamesNoSource →
          DifferInSource spec source ((a.onToolkit (.text source)).script settings)
            ((a.onHandle (.text source)).script settings) := by
  refine ⟨fun named => ⟨?_, ?_⟩, ?_⟩
  · exact fun a => a.echoes_onToolkit named
  · exact fun additions => echoes_chain named additions
  · exact fun spec inferred a noSource => differInSource inferred noSource

/-- Two layers are chained on a handle on streets, the second of them with an id and a source of its
own. A handle on a tile set by its address keeps the address. -/
theorem chain_on_streets :
    let roads : List Addition :=
      [.addTyped (.text "casing") (show ("add_line", "line") ∈ layerAdders by decide) none,
        .add (.text "roads") (.text "line") Value.noConfusion
          (some (.mapping [("id", .text "rails"), ("source", .text "tracks")]))]
    let tiles : Addition := .add (.text "roads") (.text "line") Value.noConfusion none
    let spec : Fields := [("url", .text "mapbox://user.roads"), ("type", .text "vector")]
    (SourceReference.infer .standard (.text "streets") = .ok (.named "streets") ∧
        (chain .standard (.handle (.text "streets")) roads).Echoes
          (Call.scripts .standard (roads.map (onToolkit (.text "streets"))))
          (.handle (.text "streets"))) ∧
      SourceReference.infer .standard (.text "mapbox://user.roads") = .ok (.inline spec) ∧
      tiles.NamesNoSource ∧
      DifferInSource spec "mapbox://user.roads"
        ((tiles.onToolkit (.text "mapbox://user.roads")).script .standard)
        ((tiles.onHandle (.text "mapbox://user.roads")).script .standard) := by
  intro roads tiles spec
  have named : SourceReference.infer .standard (.text "streets") = .ok (.named "streets") := rfl
  have inferred : SourceReference.infer .standard (.text "mapbox://user.roads") =
    .ok (.inline spec) := rfl
  have noSource : tiles.NamesNoSource := fun fields given => Value.noConfusion given
  exact ⟨⟨named, ((handle_is_shorthand .standard "streets").1 named).2 roads⟩, inferred, noSource,
    (handle_is_shorthand .standard "mapbox://user.roads").2 spec inferred tiles noSource⟩

end Addition

end Cartography
