import Cartography.Proofs.Host.Requests
import Cartography.Proofs.Style.Forms
import Cartography.Proofs.Style.Partition
import Cartography.Proofs.Value.Writable
import Cartography.Toolkit.Call

/-!
# The explicit fields of layers

Layers are added with an id, a type and a source that are given apart from the properties. The
properties are laid over them, and may hold fields of these names.
-/

namespace Cartography

namespace Toolkit

variable {σ : Type} (host : Host σ) (stage : Stage σ) {fields : Fields}

/-- A layer whose id can be shown is handed to the host, and nothing else is asked. -/
theorem requests_registerLayer (shown : ¬ ((fields.get? "id").getD .null).HoldsOversized) :
    ((registerLayer (.mapping fields)).run host stage).2.requests =
      stage.requests ++ [.addLayer (.mapping fields)] := by
  rw [registerLayer]
  split
  · rename_i id _
    have asked := Stage.requests_perform host (.addLayer (.mapping fields))
      (stage.written Stage.logger (additionEntry ("Adding layer '" ++ id ++ "'") "layer_type"
        ((fields.get? "type").getD .null)))
    rw [Stage.requests_written] at asked
    rw [← asked]
    simp only [bind, Script.log, Script.request, Script.bind, Script.run]
    -- The script ends with the reply, whatever it is.
    generalize Stage.perform host _ _ = performed
    rcases performed with ⟨failure | reply, after⟩ <;> rfl
  · rename_i hidden
    exact absurd ((Value.plain?_eq_none_iff _).mp hidden) shown

/-- A layer whose id is too long to be shown is turned down. -/
theorem run_registerLayer_hidden (hidden : ((fields.get? "id").getD .null).HoldsOversized) :
    (registerLayer (.mapping fields)).run host stage =
      (.error (.oversizedInteger none), stage) := by
  rw [registerLayer, (Value.plain?_eq_none_iff _).mpr hidden]
  rfl

end Toolkit

/-- A call that adds a layer: on a toolkit, with a type that is given or one that the name of the
operation stands for, or on a handle on a source. -/
inductive LayerCall
  | add (id source kind : Value) (given : kind ≠ .null)
  | addTyped (id source : Value) {name kind : String} (listed : (name, kind) ∈ layerAdders)
  | addBound (source id kind : Value)
  | addBoundTyped (source id : Value) {name kind : String} (listed : (name, kind) ∈ layerAdders)

namespace LayerCall

/-- The command that the call makes, with properties as the last argument. -/
def command (properties : Fields) : LayerCall → Except Failure Command
  | add id source kind _ =>
      (Callable.resolve "add").bind (·.apply [id, source, kind, .mapping properties] [])
  | @addTyped id source name _ _ =>
      (Callable.resolve name).bind (·.apply [id, source, .mapping properties] [])
  | addBound source id kind =>
      (Callable.resolveOn (.handle source) "add").bind (·.apply [id, kind, .mapping properties] [])
  | @addBoundTyped source id name _ _ =>
      (Callable.resolveOn (.handle source) name).bind (·.apply [id, .mapping properties] [])

/-- The call is made under some settings. -/
def run (call : LayerCall) (settings : Settings) (properties : Fields) {σ : Type} (host : Host σ)
    (stage : Stage σ) : Except Failure Answer × Stage σ :=
  match call.command properties with
  | .ok command => (command.script settings).run host stage
  | .error failure => (.error failure, stage)

/-- An id, a type and, unless there is none, what the source stands for. -/
def fieldsOf (settings : Settings) (id kind : Value) : Value → Except Failure Fields
  | .null => .ok [("id", id), ("type", kind)]
  | source => (SourceReference.infer settings source).map fun found =>
      [("id", id), ("type", kind), ("source", found.toValue)]

/-- The fields that are given apart from the properties. The source of a handle is taken as it
is. -/
def explicit (settings : Settings) : LayerCall → Except Failure Fields
  | add id source kind _ => fieldsOf settings id kind source
  | @addTyped id source _ kind _ => fieldsOf settings id (.text kind) source
  | addBound source id kind => .ok [("id", id), ("type", kind), ("source", source)]
  | @addBoundTyped source id _ kind _ =>
      .ok [("id", id), ("type", .text kind), ("source", source)]

/-! ### What a call comes to -/

theorem resolve_of_listed {name kind : String} (listed : (name, kind) ∈ layerAdders) :
    Callable.resolve name = .ok ⟨⟨["layer_id", "source"], ["props"], false, false⟩,
      fun b => .addLayer (b.arg "layer_id") (b.arg "source") (.text kind) (b.arg "props")⟩ := by
  have all : ∀ entry ∈ layerAdders,
      Callable.resolve entry.1 = .ok ⟨⟨["layer_id", "source"], ["props"], false, false⟩,
        fun b => .addLayer (b.arg "layer_id") (b.arg "source") (.text entry.2)
          (b.arg "props")⟩ := by
    simp only [layerAdders, List.forall_mem_cons]
    exact ⟨rfl, rfl, rfl, rfl, rfl, rfl, rfl, rfl, by simp⟩
  exact all _ listed

theorem resolveOn_of_listed (source : Value) {name kind : String}
    (listed : (name, kind) ∈ layerAdders) :
    Callable.resolveOn (.handle source) name = .ok ⟨⟨["layer_id"], ["props"], false, false⟩,
      fun b => .addBound source (b.arg "layer_id") (.text kind) (b.arg "props")⟩ := by
  have all : ∀ entry ∈ layerAdders,
      Callable.resolveOn (.handle source) entry.1 =
        .ok ⟨⟨["layer_id"], ["props"], false, false⟩,
          fun b => .addBound source (b.arg "layer_id") (.text entry.2) (b.arg "props")⟩ := by
    simp only [layerAdders, List.forall_mem_cons]
    exact ⟨rfl, rfl, rfl, rfl, rfl, rfl, rfl, rfl, by simp⟩
  exact all _ listed

/-- The style of properties laid over explicit fields. -/
def overlay (explicit properties : Fields) : Fields :=
  explicit.merge (Style.ofProperties properties).toFields

/-- The layer that a call makes of its own fields and of the properties. -/
def layer (call : LayerCall) (settings : Settings) (properties : Fields) :
    Except Failure Fields :=
  (call.explicit settings).map (overlay · properties)

/-- What a call answers with. -/
def answer : LayerCall → Answer
  | add _ _ _ _ | addTyped _ _ _ => .value .null
  | addBound source _ _ | addBoundTyped source _ _ => .handle source

/-- A layer on a toolkit is its own fields with the style laid over them. -/
theorem build_eq (settings : Settings) (id source : Value) {kind : Value} (given : kind ≠ .null)
    (properties : Fields) :
    Layer.build settings id source kind (.mapping properties) =
      (fieldsOf settings id kind source).map (overlay · properties) := by
  have typed : Layer.withField [("id", id)] "type" kind = [("id", id), ("type", kind)] := by
    cases kind <;> first | rfl | exact absurd rfl given
  rw [Layer.build_apart, typed]
  by_cases none : source = .null
  · subst none
    rfl
  · have sourced : Layer.sourceField settings source =
        (SourceReference.infer settings source).map SourceReference.toValue := by
      cases source <;> first | rfl | exact absurd rfl none
    have listed : fieldsOf settings id kind source =
        (SourceReference.infer settings source).map fun found =>
          [("id", id), ("type", kind), ("source", found.toValue)] := by
      cases source <;> first | rfl | exact absurd rfl none
    rw [sourced, listed]
    cases SourceReference.infer settings source with
    | error failure => rfl
    | ok found => cases found <;> rfl

/-- A call builds its layer, has it registered and answers. -/
theorem script_eq (call : LayerCall) (settings : Settings) (properties : Fields) :
    ∃ command, call.command properties = .ok command ∧
      command.script settings =
        ((Script.ofExcept (call.layer settings properties)).bind fun fields =>
          Toolkit.registerLayer (.mapping fields)).bind fun _ => .finish (.ok call.answer) := by
  cases call with
  | add id source kind given =>
      refine ⟨.addLayer id source kind (.mapping properties), rfl, ?_⟩
      rw [layer, explicit, ← build_eq settings id source given]
      rfl
  | @addTyped id source name kind listed =>
      refine ⟨.addLayer id source (.text kind) (.mapping properties), ?_, ?_⟩
      · rw [command, resolve_of_listed listed]
        rfl
      · rw [layer, explicit, ← build_eq settings id source (by simp)]
        rfl
  | addBound source id kind =>
      exact ⟨.addBound source id kind (.mapping properties), rfl, rfl⟩
  | @addBoundTyped source id name kind listed =>
      refine ⟨.addBound source id (.text kind) (.mapping properties), ?_, rfl⟩
      rw [command, resolveOn_of_listed source listed]
      rfl

/-- A call runs the building and the registering of its layer. -/
theorem run_eq (call : LayerCall) (settings : Settings) (properties : Fields) {σ : Type}
    (host : Host σ) (stage : Stage σ) :
    call.run settings properties host stage =
      (((Script.ofExcept (call.layer settings properties)).bind fun fields =>
        Toolkit.registerLayer (.mapping fields)).bind fun _ => .finish (.ok call.answer)).run
          host stage := by
  obtain ⟨command, found, script⟩ := call.script_eq settings properties
  rw [run, found, ← script]

/-! ### What is asked of the host -/

variable {call : LayerCall} {settings : Settings} {properties fields : Fields}

/-- A call turns its arguments down if it fails without asking anything of the host, on every
host. -/
def Rejects (call : LayerCall) (settings : Settings) (properties : Fields) : Prop :=
  ∃ failure, ∀ (σ : Type) (host : Host σ) (stage : Stage σ),
    call.run settings properties host stage = (.error failure, stage)

/-- A call without a layer turns its arguments down. -/
theorem rejects_of_error {failure : Failure} (failed : call.explicit settings = .error failure) :
    call.Rejects settings properties := by
  refine ⟨failure, ?_⟩
  intro σ host stage
  rw [run_eq, layer, failed]
  rfl

/-- So does a call with a layer whose id is too long to be shown. -/
theorem rejects_of_hidden (made : call.layer settings properties = .ok fields)
    (hidden : ((fields.get? "id").getD .null).HoldsOversized) :
    call.Rejects settings properties := by
  refine ⟨.oversizedInteger none, ?_⟩
  intro σ host stage
  rw [run_eq, made, Script.run_bind, Script.run_bind]
  simp only [Script.ofExcept, Script.run, Toolkit.run_registerLayer_hidden host stage hidden]

/-- Every other call hands its layer to the host and asks nothing else. -/
theorem requests_run (made : call.layer settings properties = .ok fields)
    (shown : ¬ ((fields.get? "id").getD .null).HoldsOversized) {σ : Type} (host : Host σ)
    (stage : Stage σ) :
    (call.run settings properties host stage).2.requests =
      stage.requests ++ [.addLayer (.mapping fields)] := by
  have asked := Toolkit.requests_registerLayer host stage shown
  rw [run_eq, made, Script.run_bind, Script.run_bind]
  simp only [Script.ofExcept, Script.run]
  split <;> rename_i done <;> rw [done] at asked <;> exact asked

/-! ### Whose fields count -/

/-- On every host a call asks for one thing, that its layer be added, and the layer has the fields
that are given apart from the properties. -/
def HandsExplicit (call : LayerCall) (settings : Settings) (properties : Fields) : Prop :=
  ∃ explicit, call.explicit settings = .ok explicit ∧
    ∀ (σ : Type) (host : Host σ) (stage : Stage σ), ∃ fields,
      (call.run settings properties host stage).2.requests =
        stage.requests ++ [.addLayer (.mapping fields)] ∧
      ∀ entry ∈ explicit, Fields.get? fields entry.1 = some entry.2

/-- Unless a call turns its arguments down, its explicit fields are those of the layer. -/
def ExplicitWins (call : LayerCall) (settings : Settings) (properties : Fields) : Prop :=
  call.Rejects settings properties ∨ call.HandsExplicit settings properties

/-- The properties hold no other value under the name of an explicit field. -/
def Agrees (explicit properties : Fields) : Prop :=
  ∀ entry ∈ explicit, ∀ value, properties.last? entry.1 = some value → value = entry.2

/-- The id that a call gives. -/
def id : LayerCall → Value
  | add id _ _ _ | addTyped id _ _ | addBound _ id _ | addBoundTyped _ id _ => id

theorem fieldsOf_eq_ok {id kind source : Value} {explicit : Fields}
    (given : fieldsOf settings id kind source = .ok explicit) :
    explicit = [("id", id), ("type", kind)] ∨
      ∃ found, explicit = [("id", id), ("type", kind), ("source", found)] := by
  unfold fieldsOf at given
  split at given
  · exact Or.inl (Except.ok.inj given).symm
  · cases inferred : SourceReference.infer settings source with
    | error failure =>
        rw [inferred] at given
        cases given
    | ok found =>
        rw [inferred] at given
        exact Or.inr ⟨found.toValue, (Except.ok.inj given).symm⟩

/-- The explicit fields are the id, the type and perhaps the source. -/
theorem explicit_eq_ok {explicit : Fields} (given : call.explicit settings = .ok explicit) :
    ∃ kind, explicit = [("id", call.id), ("type", kind)] ∨
      ∃ source, explicit = [("id", call.id), ("type", kind), ("source", source)] := by
  cases call with
  | add id source kind _ => exact ⟨kind, fieldsOf_eq_ok given⟩
  | @addTyped id source _ kind _ => exact ⟨.text kind, fieldsOf_eq_ok given⟩
  | addBound source id kind => exact ⟨kind, Or.inr ⟨source, (Except.ok.inj given).symm⟩⟩
  | @addBoundTyped source id _ kind _ =>
      exact ⟨.text kind, Or.inr ⟨source, (Except.ok.inj given).symm⟩⟩

/-- Every explicit field is found under its name, which is one of three. -/
theorem get?_explicit {explicit : Fields} (given : call.explicit settings = .ok explicit)
    {entry : String × Value} (member : entry ∈ explicit) :
    entry.1 ∈ ["id", "type", "source"] ∧ explicit.get? entry.1 = some entry.2 := by
  obtain ⟨kind, rfl | ⟨source, rfl⟩⟩ := explicit_eq_ok given <;>
    simp only [List.mem_cons, List.not_mem_nil, or_false] at member <;>
    rcases member with rfl | rfl | rfl <;> simp [Fields.get?_cons]

/-- A property with the name of an explicit field passes into the style as it is. -/
theorem last?_style {name : String} (listed : name ∈ ["id", "type", "source"])
    (properties : Fields) :
    (Style.ofProperties properties).toFields.last? name = properties.last? name := by
  have all : ∀ name ∈ ["id", "type", "source"], (classify name).category = .none ∧
      name ≠ "source-layer" ∧ name ≠ "sourceLayer" ∧ name ≠ "paint" ∧ name ≠ "layout" := by
    decide
  obtain ⟨own, notRenamed, notWritten, noPaint, noLayout⟩ := all name listed
  rw [Fields.last?_of_distinct (Style.distinct_toFields properties),
    Style.get?_own properties noPaint noLayout,
    Style.get?_own_of_same properties own (Style.topName_eq_iff notRenamed notWritten)]

/-- A layer has the value of a property where there is one, and else the explicit field. -/
theorem get?_overlay (explicit properties : Fields) {name : String}
    (listed : name ∈ ["id", "type", "source"]) :
    (overlay explicit properties).get? name =
      (properties.last? name).or (explicit.get? name) := by
  rw [overlay, Fields.get?_merge, last?_style listed]

theorem layer_eq {explicit : Fields} (given : call.explicit settings = .ok explicit)
    (properties : Fields) :
    call.layer settings properties = .ok (overlay explicit properties) := by
  rw [layer, given]
  rfl

/-- The id of the layer is that of a property, or else that of the call. -/
theorem layer_id {explicit : Fields} (given : call.explicit settings = .ok explicit)
    (properties : Fields) :
    ((overlay explicit properties).get? "id").getD .null =
      (properties.last? "id").getD call.id := by
  have own : explicit.get? "id" = some call.id := by
    obtain ⟨kind, rfl | ⟨source, rfl⟩⟩ := explicit_eq_ok given <;> rfl
  rw [get?_overlay explicit properties (by simp), own]
  cases properties.last? "id" <;> rfl

/-- Where the properties agree with the explicit fields, the layer has these. -/
theorem handsExplicit_of_agrees {explicit : Fields} (given : call.explicit settings = .ok explicit)
    (shown : ¬ ((properties.last? "id").getD call.id).HoldsOversized)
    (agrees : Agrees explicit properties) : call.HandsExplicit settings properties := by
  refine ⟨explicit, given, ?_⟩
  intro σ host stage
  have asked := requests_run (layer_eq given properties) (layer_id given properties ▸ shown) host
    stage
  refine ⟨_, asked, ?_⟩
  intro entry member
  obtain ⟨listed, own⟩ := get?_explicit given member
  rw [get?_overlay explicit properties listed, own]
  cases found : properties.last? entry.1 with
  | none => rfl
  | some value => rw [agrees entry member value found, Option.some_or]

/-- Where the layer has the explicit fields, the properties agree with them. -/
theorem agrees_of_handsExplicit {explicit : Fields}
    (given : call.explicit settings = .ok explicit)
    (shown : ¬ ((properties.last? "id").getD call.id).HoldsOversized)
    (hands : call.HandsExplicit settings properties) : Agrees explicit properties := by
  obtain ⟨explicit', given', handed⟩ := hands
  obtain rfl := Except.ok.inj (given.symm.trans given')
  obtain ⟨fields, asked, holds⟩ := handed Unit .idle .idle
  rw [requests_run (layer_eq given properties) (layer_id given properties ▸ shown)] at asked
  obtain rfl : overlay explicit properties = fields := by
    simpa using asked
  intro entry member value found
  have held := holds entry member
  rw [get?_overlay explicit properties (get?_explicit given member).1, found] at held
  simpa using held

/-- A call that hands a layer to the host does not turn its arguments down. -/
theorem not_rejects {explicit : Fields} (given : call.explicit settings = .ok explicit)
    (shown : ¬ ((properties.last? "id").getD call.id).HoldsOversized) :
    ¬ call.Rejects settings properties := by
  rintro ⟨failure, fails⟩
  have asked := requests_run (layer_eq given properties) (layer_id given properties ▸ shown)
    .idle .idle
  rw [fails] at asked
  simp at asked

/-- Where explicit fields win, the properties agree with them. -/
theorem agrees_of_explicitWins {explicit : Fields}
    (given : call.explicit settings = .ok explicit)
    (shown : ¬ ((properties.last? "id").getD call.id).HoldsOversized)
    (wins : call.ExplicitWins settings properties) : Agrees explicit properties := by
  rcases wins with rejects | hands
  · exact absurd rejects (not_rejects given shown)
  · exact agrees_of_handsExplicit given shown hands

/-- **When explicit fields win.** A call that has a source to draw from and an id to show hands
its layer to the host. The layer has the call's own id, type and source exactly when no property
gives another value under these names. -/
theorem explicitWins_iff (call : LayerCall) (settings : Settings) (properties : Fields) :
    call.ExplicitWins settings properties ↔
      ∀ explicit, call.explicit settings = .ok explicit →
        ¬ ((properties.last? "id").getD call.id).HoldsOversized → Agrees explicit properties := by
  constructor
  · intro wins explicit given shown
    exact agrees_of_explicitWins given shown wins
  · intro agrees
    cases given : call.explicit settings with
    | error failure => exact Or.inl (rejects_of_error given)
    | ok explicit =>
        by_cases hidden : ((properties.last? "id").getD call.id).HoldsOversized
        · exact Or.inl (rejects_of_hidden (layer_eq given properties)
            (layer_id given properties ▸ hidden))
        · exact Or.inr (handsExplicit_of_agrees given hidden (agrees explicit given hidden))

/-- An id among the properties takes the place of the one that is given, and a source that of the
one a handle is bound to. -/
theorem explicit_fields_lose :
    ¬ (add (.text "roads") (.text "streets") (.text "line") (by simp)).ExplicitWins .standard
        [("id", .text "other")] ∧
      ¬ (addBoundTyped (.text "streets") (.text "roads")
        (show ("add_line", "line") ∈ layerAdders by decide)).ExplicitWins .standard
          [("source", .text "other")] := by
  constructor
  · intro wins
    have agrees := agrees_of_explicitWins rfl (by rintro ⟨⟩) wins
    have same := agrees ("id", .text "roads") (by simp) (.text "other") rfl
    simp at same
  · intro wins
    have agrees := agrees_of_explicitWins rfl (by rintro ⟨⟩) wins
    have same := agrees ("source", .text "streets") (by simp) (.text "other") rfl
    simp at same

end LayerCall

end Cartography
