import Cartography.Proofs.Host.Asking
import Cartography.Proofs.Outcome
import Cartography.Toolkit.Call

/-!
# Operations that check first

All operations but two check their arguments before they put a request, and then put requests in
turn. The two are removals, which listen for errors meanwhile, and callbacks for when the map has
loaded. An operation that adds something puts a single request.

## Implementation notes

`Call` is an operation as the user calls it, on any host.
-/

namespace Cartography

/-- There is one request, and it is not about a subscription. -/
def SingleRequest (requests : List Request) : Prop :=
  ∃ r, requests = [r] ∧ r.subscribes = false

theorem SingleRequest.noneSubscribes {requests : List Request} (single : SingleRequest requests) :
    NoneSubscribes requests := by
  obtain ⟨r, rfl, plain⟩ := single
  simpa [NoneSubscribes] using plain

/-! ### Compiling -/

theorem Expression.checksFirst_compile (source : Value) :
    (Expression.compile source).ChecksFirst NoneSubscribes := by
  unfold Expression.compile
  split
  · exact .carriesOut noneSubscribes_nil (.note .finish)
  · split
    · exact .turnsDown (.note .finish)
    · exact .turnsDown .finish

/-! ### Styling -/

namespace Toolkit

/-- The request that sends a property to its half of a layer, or to layout if it has none. -/
def sent (layer name : String) (value : Value) : Request :=
  match (classify name).category with
  | .paint => .setPaintProperty (.text layer) (.text (classify name).canonical) value
  | _ => .setLayoutProperty (.text layer) (.text (classify name).canonical) value

theorem subscribes_sent (layer name : String) (value : Value) :
    (sent layer name value).subscribes = false := by
  rw [sent]
  split <;> rfl

theorem asksInTurn_sendProperty (layer name : String) (value : Value) :
    (sendProperty layer (.text name) value).AsksInTurn (.ok ()) [sent layer name value] := by
  rw [sendProperty, sent]
  cases (classify name).category with
  | paint => exact Script.asksInTurn_request _
  | layout => exact Script.asksInTurn_request _
  | none => exact .note (Script.asksInTurn_request _)

/-- The entries of a mapping are sent one by one. -/
theorem asksInTurn_sendEntries (layer : String) (entries : Fields) :
    (Script.forEach (entries.map fun entry => (Value.text entry.1, entry.2))
      fun entry => sendProperty layer entry.1 entry.2).AsksInTurn (.ok ())
        (entries.map fun entry => sent layer entry.1 entry.2) := by
  induction entries with
  | nil => exact .finish
  | cons entry rest ih => exact (asksInTurn_sendProperty layer entry.1 entry.2).bind ih

/-- The properties of an argument are the entries of a mapping, or a single one whose name is no
text. -/
theorem propertiesOf_eq_ok {property value : Value} {properties : List (Value × Value)}
    (given : propertiesOf property value = .ok properties) :
    (∃ entries : Fields, properties = entries.map fun entry => (.text entry.1, entry.2)) ∨
      ∃ name, (∀ s, name ≠ .text s) ∧ properties = [(name, value)] := by
  cases property with
  | mapping entries => exact Or.inl ⟨entries, (Except.ok.inj given).symm⟩
  | text s => exact Or.inl ⟨[(s, value)], (Except.ok.inj given).symm⟩
  | list items => cases given
  | null => exact Or.inr ⟨.null, by simp, (Except.ok.inj given).symm⟩
  | bool b => exact Or.inr ⟨.bool b, by simp, (Except.ok.inj given).symm⟩
  | integer i => exact Or.inr ⟨.integer i, by simp, (Except.ok.inj given).symm⟩
  | double x => exact Or.inr ⟨.double x, by simp, (Except.ok.inj given).symm⟩

theorem sendProperty_of_not_text (layer : String) {name : Value} (noText : ∀ s, name ≠ .text s)
    (value : Value) : sendProperty layer name value = .fail .badArguments := by
  cases name with
  | text s => exact absurd rfl (noText s)
  | _ => rfl

theorem checksFirst_setProperty (layers property value : Value) :
    (setProperty layers property value).ChecksFirst NoneSubscribes := by
  refine .behind fun properties given => .behind fun ids _ => ?_
  rcases propertiesOf_eq_ok given with ⟨entries, rfl⟩ | ⟨name, noText, rfl⟩
  · refine .carriesOut ?_ (.forEach _ (fun id => asksInTurn_sendEntries id entries) ids)
    intro r member
    obtain ⟨id, -, listed⟩ := List.mem_flatMap.mp member
    obtain ⟨entry, -, rfl⟩ := List.mem_map.mp listed
    exact subscribes_sent id entry.1 entry.2
  · -- a name that is no text is turned down for the first layer
    cases ids with
    | nil => exact .carriesOut noneSubscribes_nil .finish
    | cons id rest =>
        have refused : (sendProperty id name value).AsksInTurn (.error .badArguments) [] := by
          rw [sendProperty_of_not_text id noText]
          exact .finish
        exact .turnsDown (.bind_error (.bind_error refused))

theorem checksFirst_setFilter (layers filter : Value) :
    (setFilter layers filter).ChecksFirst NoneSubscribes := by
  refine .behind fun ids _ => .carriesOut ?_ (.forEach _ (fun _ => Script.asksInTurn_request _) ids)
  intro r member
  obtain ⟨id, -, listed⟩ := List.mem_flatMap.mp member
  obtain rfl := List.mem_singleton.mp listed
  rfl

/-! ### Adding -/

theorem checksFirst_registerLayer (layer : Value) :
    (registerLayer layer).ChecksFirst SingleRequest := by
  unfold registerLayer
  split
  · split
    · exact .carriesOut ⟨_, rfl, rfl⟩ (.note (Script.asksInTurn_request _))
    · exact .turnsDown .finish
  · exact .turnsDown .finish

theorem checksFirst_registerSource (id : Value) (spec : Fields) :
    (registerSource id spec).ChecksFirst SingleRequest := by
  unfold registerSource
  split
  · exact .carriesOut ⟨_, rfl, rfl⟩ (.note (Script.asksInTurn_request _))
  · exact .turnsDown .finish

theorem checksFirst_addBuilt (id : Value) (built : Except Failure Fields) :
    (addBuilt id built).ChecksFirst SingleRequest :=
  .behind fun spec _ => checksFirst_registerSource id spec

end Toolkit

/-! ### Commands -/

/-- What a removal takes: the pattern of the errors that do not matter, the ids, and the request
that each of them is removed with. -/
structure Removal where
  pattern : String
  ids : Value
  request : Value → Request

namespace Command

theorem asksInTurn_updateScript (id data : Value) :
    ∃ shown, (updateScript id data).AsksInTurn (.ok ()) [.getSource id, .setData id shown] :=
  ⟨_, .ask (fun _ => rfl) fun _ => Script.asksInTurn_request _⟩

/-- Whether a command adds a layer or a source. -/
def adds : Command → Bool
  | registerLayer _ | addLayer _ _ _ _ | addSource _ _ | addGeojson _ _ _ | addVector _ _ _
  | addRaster _ _ _ _ | addBound _ _ _ _ => true
  | _ => false

/-- A command that adds something puts one request, if any. -/
theorem checksFirst_of_adds (settings : Settings) {command : Command}
    (adding : command.adds = true) : (command.script settings).ChecksFirst SingleRequest := by
  cases command with
  | registerLayer layer => exact (Toolkit.checksFirst_registerLayer layer).answered _
  | addLayer id source kind properties =>
      exact .answered (.behind fun _ _ => Toolkit.checksFirst_registerLayer _) _
  | addBound source id kind properties =>
      exact .answered (.behind fun _ _ => Toolkit.checksFirst_registerLayer _) _
  | addSource id spec => exact (Toolkit.checksFirst_addBuilt id _).answered _
  | addGeojson id data options => exact (Toolkit.checksFirst_addBuilt id _).answered _
  | addVector id spec options => exact (Toolkit.checksFirst_addBuilt id _).answered _
  | addRaster id spec kind options => exact (Toolkit.checksFirst_addBuilt id _).answered _
  | _ => cases adding

/-- The removal that a command is, if it is one. -/
def removal? (settings : Settings) : Command → Option Removal
  | removeLayers layers => some ⟨settings.missingLayerPattern, layers, .removeLayer⟩
  | removeSources sources => some ⟨settings.missingSourcePattern, sources, .removeSource⟩
  | _ => none

/-- A command checks first, unless it is a removal or a callback for when the map has loaded. -/
theorem checksFirst (settings : Settings) (command : Command) :
    (command.script settings).ChecksFirst NoneSubscribes ∨
      (∃ removal, command.removal? settings = some removal) ∨
      ∃ listener, command = .onLoad listener := by
  by_cases adding : command.adds = true
  · exact Or.inl ((checksFirst_of_adds settings adding).mono fun _ => SingleRequest.noneSubscribes)
  cases command with
  | compile source => exact Or.inl (.answered (Expression.checksFirst_compile source) _)
  | properties properties =>
      exact Or.inl (.behind fun _ _ => .carriesOut noneSubscribes_nil .finish)
  | layerStyle arguments =>
      exact Or.inl (.behind fun _ _ => .carriesOut noneSubscribes_nil .finish)
  | setProperty layers property value =>
      exact Or.inl (.answered (Toolkit.checksFirst_setProperty layers property value) _)
  | setVisible layers visible =>
      exact Or.inl (.answered (Toolkit.checksFirst_setProperty layers _ _) _)
  | setFilter layers filter =>
      exact Or.inl (.answered (Toolkit.checksFirst_setFilter layers filter) _)
  | update id data =>
      obtain ⟨shown, asks⟩ := asksInTurn_updateScript id data
      refine Or.inl (.answered (.carriesOut ?_ asks) _)
      simp [NoneSubscribes, Request.subscribes]
  | removeLayers layers => exact Or.inr (Or.inl ⟨_, rfl⟩)
  | removeSources sources => exact Or.inr (Or.inl ⟨_, rfl⟩)
  | onLoad listener => exact Or.inr (Or.inr ⟨listener, rfl⟩)
  | _ => exact absurd rfl adding

end Command

/-! ### Calls -/

/-- An operation as it is called: by name on a toolkit or on a handle, or with a callback for when
the map has loaded. -/
inductive Call
  | onToolkit (name : String) (arguments : List Value) (named : Fields)
  | onHandle (source : Value) (name : String) (arguments : List Value) (named : Fields)
  | onLoad (tag : String) (raises : Option String)

namespace Call

/-- The command that a call makes. -/
def command : Call → Except Failure Command
  | onToolkit name arguments named =>
      (Callable.resolve name).bind fun callable => callable.apply arguments named
  | onHandle source name arguments named =>
      (Callable.resolveOn (.handle source) name).bind fun callable =>
        callable.apply arguments named
  | onLoad tag raises => .ok (.onLoad (.callback tag raises))

/-- What a call does under some settings. -/
def script (settings : Settings) (call : Call) : Script Answer :=
  (Script.ofExcept call.command).bind fun command => command.script settings

/-- What calls do under some settings, one after the other up to one that fails. -/
def scripts (settings : Settings) (calls : List Call) : Script Unit :=
  Script.forEach calls fun call => (call.script settings).bind fun _ => .finish (.ok ())

/-- The removal that a call is, if it is one. -/
def removal? (settings : Settings) (call : Call) : Option Removal :=
  match call.command with
  | .ok command => command.removal? settings
  | .error _ => none

theorem script_of_ok (settings : Settings) {call : Call} {command : Command}
    (made : call.command = .ok command) : call.script settings = command.script settings := by
  rw [script, made]
  rfl

/-- What arguments make of an operation is one of its commands. -/
theorem eq_of_apply {callable : Callable} {arguments : List Value} {named : Fields}
    {command : Command} (applied : callable.apply arguments named = .ok command) :
    ∃ b, command = callable.command b := by
  unfold Callable.apply at applied
  split at applied
  · exact ⟨_, (Except.ok.inj applied).symm⟩
  · cases applied

/-- All operations of a handle add something. -/
theorem adds_of_onHandle {source : Value} {name : String} {arguments : List Value}
    {named : Fields} {command : Command}
    (made : (onHandle source name arguments named).command = .ok command) :
    command.adds = true := by
  obtain ⟨callable, resolved, applied⟩ := bind_eq_ok.mp made
  obtain ⟨b, rfl⟩ := eq_of_apply applied
  simp only [Callable.resolveOn] at resolved
  split at resolved
  · rename_i found
    obtain rfl := Except.ok.inj resolved
    unfold Callable.onHandle? at found
    split at found
    · obtain rfl := Option.some.inj found
      rfl
    · obtain ⟨kind, -, rfl⟩ := Option.map_eq_some_iff.mp found
      rfl
  · cases resolved

/-- No operation with a name takes a callback for when the map has loaded. -/
theorem command_ne_onLoad {name : String} {callable : Callable}
    (found : Callable.resolve name = .ok callable) (b : Bound) (listener : Listener) :
    callable.command b ≠ .onLoad listener := by
  unfold Callable.resolve at found
  split at found
  · rename_i known
    obtain rfl := Except.ok.inj found
    unfold Callable.ofName? at known
    split at known
    case h_21 =>
      obtain ⟨kind, -, rfl⟩ := Option.map_eq_some_iff.mp known
      exact fun same => by cases same
    all_goals
      obtain rfl := Option.some.inj known
      exact fun same => by cases same
  · split at found
    · obtain rfl := Except.ok.inj found
      exact fun same => by cases same
    · cases found

theorem onLoad_of_command {call : Call} {listener : Listener}
    (made : call.command = .ok (.onLoad listener)) : ∃ tag raises, call = .onLoad tag raises := by
  cases call with
  | onToolkit name arguments named =>
      obtain ⟨callable, resolved, applied⟩ := bind_eq_ok.mp made
      obtain ⟨b, same⟩ := eq_of_apply applied
      exact absurd same.symm (command_ne_onLoad resolved b listener)
  | onHandle source name arguments named => cases adds_of_onHandle made
  | onLoad tag raises => exact ⟨tag, raises, rfl⟩

/-- A call checks first, unless it is a removal or gives a callback for when the map has loaded. -/
theorem checksFirst (settings : Settings) (call : Call) :
    (call.script settings).ChecksFirst NoneSubscribes ∨
      (∃ removal, call.removal? settings = some removal) ∨
      ∃ tag raises, call = .onLoad tag raises := by
  cases made : call.command with
  | error failure =>
      rw [script, made]
      exact Or.inl (.turnsDown .finish)
  | ok command =>
      rw [script_of_ok settings made, removal?, made]
      rcases command.checksFirst settings with checks | removes | ⟨listener, rfl⟩
      · exact Or.inl checks
      · exact Or.inr (Or.inl removes)
      · exact Or.inr (Or.inr (onLoad_of_command made))

/-! ### Calls that add something -/

/-- The operations of a toolkit that add a layer or a source. -/
def additions : List String :=
  ["register_layer", "add", "add_background", "add_source", "add_geojson", "add_vector",
    "add_raster_source", "add_raster_dem_source"] ++ layerAdders.map (·.1)

/-- Whether an operation is called that adds a layer or a source. All operations of a handle do. -/
def adds : Call → Bool
  | onToolkit name _ _ => additions.contains name
  | onHandle _ _ _ _ => true
  | onLoad _ _ => false

theorem adds_of_mem_additions {name : String} (listed : name ∈ additions) :
    ∃ callable, Callable.resolve name = .ok callable ∧ ∀ b, (callable.command b).adds = true := by
  simp only [additions, layerAdders, List.map_cons, List.map_nil, List.cons_append,
    List.nil_append, List.mem_cons, List.not_mem_nil, or_false] at listed
  rcases listed with rfl | rfl | rfl | rfl | rfl | rfl | rfl | rfl | rfl | rfl | rfl | rfl | rfl |
    rfl | rfl | rfl <;> exact ⟨_, rfl, fun _ => rfl⟩

theorem adds_command {call : Call} (adding : call.adds = true) {command : Command}
    (made : call.command = .ok command) : command.adds = true := by
  cases call with
  | onToolkit name arguments named =>
      obtain ⟨callable, resolved, all⟩ :=
        adds_of_mem_additions (List.contains_iff_mem.mp adding)
      obtain ⟨found, resolved', applied⟩ := bind_eq_ok.mp made
      obtain rfl := Except.ok.inj (resolved.symm.trans resolved')
      obtain ⟨b, rfl⟩ := eq_of_apply applied
      exact all b
  | onHandle source name arguments named => exact adds_of_onHandle made
  | onLoad tag raises => cases adding

/-- A call that adds something puts one request, if any. -/
theorem checksFirst_of_adds (settings : Settings) {call : Call} (adding : call.adds = true) :
    (call.script settings).ChecksFirst SingleRequest := by
  refine .behind fun command made => ?_
  exact Command.checksFirst_of_adds settings (adds_command adding made)

end Call

end Cartography
