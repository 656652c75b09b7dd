import Cartography.Proofs.Style.Assembled
import Cartography.Proofs.Style.Forms
import Cartography.Proofs.Toolkit.CheckingFirst

/-!
# Styling at creation and later

Properties can be given when a layer is made, or set on a layer that is there. Both come to the
same: the properties that are set one by one add up to the halves of the style that is made of them
at once. Of the layout properties that are set, only those with a known name count, since unknown
ones are fields of the layer itself at creation.
-/

namespace Cartography

namespace Request

/-- The entry of the paint half that a request sets, if any. -/
def painting? : Request → Option (String × Value)
  | .setPaintProperty _ (.text name) value => some (name, value)
  | _ => none

/-- The entry of the layout half that a request sets, if any. -/
def layingOut? : Request → Option (String × Value)
  | .setLayoutProperty _ (.text name) value => some (name, value)
  | _ => none

end Request

/-- The paint half that some requests add up to, set in turn on an empty one. -/
def painted (requests : List Request) : Fields :=
  Fields.merge [] (requests.filterMap Request.painting?)

/-- The layout half that some requests add up to, set in turn on an empty one. -/
def laidOut (requests : List Request) : Fields :=
  Fields.merge [] (requests.filterMap Request.layingOut?)

/-- How a half stands in the fields of a layer: not at all if there is nothing in it. -/
def asHalf (half : Fields) : Option Value := if half = [] then none else some (.mapping half)

/-- The halves of some fields are those that requests add up to. -/
structure HasHalves (fields : Fields) (requests : List Request) : Prop where
  paint : fields.get? "paint" = asHalf (painted requests)
  layout : fields.get? "layout" = asHalf ((laidOut requests).keeping layoutNames.contains)

/-- Fields that come of properties at creation: the style itself, or a layer with the properties,
made with or without a source and a type of its own. -/
inductive Created (settings : Settings) (layer : String) (properties : Fields) : Fields → Prop
  | style {fields : Fields} (built : Style.build (.mapping properties) = .ok fields) :
      Created settings layer properties fields
  | layer {source kind : Value} {fields : Fields}
      (built : Layer.ofArguments settings [.text layer, source, kind, .mapping properties] =
        .ok fields) : Created settings layer properties fields
  | bare {fields : Fields}
      (built : Layer.ofArguments settings [.text layer, .mapping properties] = .ok fields) :
      Created settings layer properties fields

/-! ### What the requests add up to -/

namespace Toolkit

theorem painting?_sent (layer key : String) (value : Value) :
    (sent layer key value).painting? =
      if (classify key).category = .paint then some (Style.keptName key, value) else none := by
  rw [sent, Style.keptName]
  cases (classify key).category <;> rfl

theorem layingOut?_sent (layer key : String) (value : Value) :
    (sent layer key value).layingOut? =
      if (classify key).category = .paint then none
      else some ((classify key).canonical, value) := by
  rw [sent]
  cases (classify key).category <;> rfl

/-- The requests that send properties. -/
def sentAll (layer : String) (properties : Fields) : List Request :=
  properties.map fun entry => sent layer entry.1 entry.2

theorem painted_sentAll (layer : String) (properties : Fields) :
    painted (sentAll layer properties) = Style.partOf .paint properties := by
  have entries : (sentAll layer properties).filterMap Request.painting? =
      Style.entriesOf .paint properties := by
    rw [sentAll, List.filterMap_map]
    exact List.filterMap_congr fun entry _ => painting?_sent layer entry.1 entry.2
  rw [painted, entries]
  rfl

/-- A property that is no paint property has a known name exactly if it is a layout property. -/
theorem contains_canonical {key : String} (noPaint : (classify key).category ≠ .paint) :
    layoutNames.contains (classify key).canonical =
      decide ((classify key).category = .layout) := by
  simp only [classify, Category.of] at noPaint ⊢
  split at noPaint
  · exact absurd rfl noPaint
  · split <;> simp_all

/-- Of the entries that are sent to layout, the known ones are those of the layout half. -/
theorem keeping_layingOut (layer : String) (properties : Fields) :
    Fields.keeping layoutNames.contains ((sentAll layer properties).filterMap Request.layingOut?) =
      Style.entriesOf .layout properties := by
  induction properties with
  | nil => rfl
  | cons entry rest ih =>
      obtain ⟨key, value⟩ := entry
      rw [sentAll, List.map_cons, List.filterMap_cons, layingOut?_sent, Style.entriesOf_cons]
      by_cases paint : (classify key).category = .paint
      · rw [if_pos paint, if_neg (by simp [paint])]
        exact ih
      · rw [if_neg paint]
        refine (Fields.keeping_cons _ _ _).trans ?_
        rw [contains_canonical paint]
        by_cases layout : (classify key).category = .layout
        · have kept : Style.keptName key = (classify key).canonical := by
            simp [Style.keptName, layout]
          rw [if_pos layout, if_pos (by simp [layout]), kept]
          exact congrArg _ ih
        · rw [if_neg layout, if_neg (by simp [layout])]
          exact ih

theorem laidOut_sentAll (layer : String) (properties : Fields) :
    (laidOut (sentAll layer properties)).keeping layoutNames.contains =
      Style.partOf .layout properties := by
  rw [laidOut, Fields.keeping_merge, keeping_layingOut]
  rfl

end Toolkit

/-! ### The halves at creation -/

namespace Style

variable {category : Category} {properties : Fields}

/-- Where no own field has the name of a half, the half stands there, if there is anything in
it. -/
theorem get?_half_of_absent (half : category ≠ .none)
    (absent : properties.has category.name = false) :
    (ofProperties properties).toFields.get? category.name =
      asHalf (partOf category properties) := by
  rw [get?_half properties half, get?_own_half_of_absent absent, asHalf]

/-- Leaving out a property of another part changes nothing of a part. -/
theorem partOf_erase (properties : Fields) {key : String}
    (other : (classify key).category ≠ category) :
    partOf category (properties.erase key) = partOf category properties := by
  rw [partOf, partOf, entriesOf, entriesOf, Fields.erase, List.filterMap_filter]
  refine congrArg (Fields.merge []) (List.filterMap_congr fun entry _ => ?_)
  by_cases same : entry.1 = key
  · simp [same, other]
  · simp [same]

end Style

namespace Layer

theorem get?_withField (fields : Fields) {key other : String} (value : Value)
    (ne : other ≠ key) : (withField fields key value).get? other = fields.get? other := by
  unfold withField
  split
  · rfl
  · exact Fields.get?_set_of_ne fields _ ne

/-- The halves of a layer are those of its style. -/
theorem get?_build {settings : Settings} {id source kind argument : Value} {fields : Fields}
    (built : build settings id source kind argument = .ok fields) {source' kind' : Value}
    {properties : Fields} (taken : split source kind argument = (source', kind', .mapping properties))
    {name : String} (listed : name ∈ ["paint", "layout"]) :
    fields.get? name = (Style.ofProperties properties).toFields.get? name := by
  simp only [build, taken] at built
  obtain ⟨found, -, rest⟩ := bind_eq_ok.mp built
  obtain rfl := Except.ok.inj rest
  have noOwn : name ≠ "id" ∧ name ≠ "type" ∧ name ≠ "source" := by
    simp only [List.mem_cons, List.not_mem_nil, or_false] at listed
    rcases listed with rfl | rfl <;> decide
  obtain ⟨noId, noType, noSource⟩ := noOwn
  rw [Fields.get?_merge, Fields.last?_of_distinct (Style.distinct_toFields properties),
    get?_withField _ _ noSource, get?_withField _ _ noType, Fields.get?_cons]
  simp [noId]

end Layer

/-- Fields with the halves of a style have those that requests add up to, if the style has the same
parts as the properties that are sent. -/
theorem hasHalves_of_style {layer : String} {properties kept fields : Fields}
    (same : ∀ name ∈ ["paint", "layout"],
      fields.get? name = (Style.ofProperties kept).toFields.get? name)
    (noPaint : kept.has "paint" = false) (noLayout : kept.has "layout" = false)
    (parts : ∀ category, category ≠ .none →
      Style.partOf category kept = Style.partOf category properties) :
    HasHalves fields (Toolkit.sentAll layer properties) where
  paint := by
    have half : Category.paint ≠ .none := by decide
    rw [same "paint" (by decide), Toolkit.painted_sentAll, ← parts _ half]
    exact Style.get?_half_of_absent half noPaint
  layout := by
    have half : Category.layout ≠ .none := by decide
    rw [same "layout" (by decide), Toolkit.laidOut_sentAll, ← parts _ half]
    exact Style.get?_half_of_absent half noLayout

/-- What is created of properties has the halves that their requests add up to. -/
theorem Created.hasHalves {settings : Settings} {layer : String} {properties fields : Fields}
    (noPaint : properties.has "paint" = false) (noLayout : properties.has "layout" = false)
    (created : Created settings layer properties fields) :
    HasHalves fields (Toolkit.sentAll layer properties) := by
  cases created with
  | style built =>
      obtain rfl := Except.ok.inj built
      exact hasHalves_of_style (fun _ _ => rfl) noPaint noLayout fun _ _ => rfl
  | @layer source kind _ built =>
      have apart := Layer.split_apart source kind properties
      exact hasHalves_of_style (fun _ => Layer.get?_build built apart) noPaint noLayout
        fun _ _ => rfl
  | bare built =>
      -- a source and a type among the properties are taken out of them first
      have whole : Layer.build settings (.text layer) (.mapping properties) .null .null =
        .ok fields := built
      have absent {name : String} (missing : properties.has name = false) :
          ((properties.erase "source").erase "type").has name = false :=
        Fields.has_erase_of_absent (Fields.has_erase_of_absent missing "source") "type"
      refine hasHalves_of_style (fun _ => Layer.get?_build whole rfl) (absent noPaint)
        (absent noLayout) fun category half => ?_
      rw [Style.partOf_erase, Style.partOf_erase]
      · cases category <;> first | decide | exact absurd rfl half
      · cases category <;> first | decide | exact absurd rfl half

/-! ### Setting properties of a mapping -/

namespace Toolkit

theorem subjects_sent (layer name : String) (value : Value) :
    (sent layer name value).subjects.head? = some (.text layer) := by
  rw [sent]
  split <;> rfl

theorem asksInTurn_setProperty (layer : String) (properties : Fields) :
    (setProperty (.text layer) (.mapping properties) .null).AsksInTurn (.ok ())
      (sentAll layer properties) := by
  have alone := Script.AsksInTurn.forEach (fun id => sentAll id properties)
    (fun id => asksInTurn_sendEntries id properties) [layer]
  rw [List.flatMap_singleton] at alone
  exact alone

end Toolkit

/-- **Styling at creation and later agree.** Properties without an own paint or layout half are set
on a layer of any host. Where the host takes the requests, the call returns, and the requests, all
of them for the layer, add up to the halves of what is created of the same properties. -/
theorem Call.sets_what_is_created (settings : Settings) (layer : String) (properties : Fields)
    (noPaint : properties.has "paint" = false) (noLayout : properties.has "layout" = false)
    {σ : Type} (host : Host σ) (stage : Stage σ)
    (taken : ∀ exchange ∈ exchanges (((onToolkit "set_property"
      [.text layer, .mapping properties] []).script settings).moments host stage),
        ∃ value, exchange.2 = .ok value) :
    let ran := ((onToolkit "set_property" [.text layer, .mapping properties] []).script
      settings).run host stage
    ran.1 = .ok (.value .null) ∧
      ∃ asked, ran.2.requests = stage.requests ++ asked ∧
        (∀ r ∈ asked, r.subjects.head? = some (.text layer)) ∧
        ∀ fields, Created settings layer properties fields → HasHalves fields asked := by
  have asks : ((onToolkit "set_property" [.text layer, .mapping properties] []).script
      settings).AsksInTurn (.ok (.value .null)) (Toolkit.sentAll layer properties) :=
    (Toolkit.asksInTurn_setProperty layer properties).answered
      fun _ => Answer.value .null
  obtain ⟨asked, ended⟩ := (asks.inTurn host stage).all_of_accepted taken
  refine ⟨ended, Toolkit.sentAll layer properties, ?_, ?_, ?_⟩
  · rw [Script.requests_run, asked]
  · intro r member
    obtain ⟨entry, -, rfl⟩ := List.mem_map.mp member
    exact Toolkit.subjects_sent layer entry.1 entry.2
  · exact fun fields created => created.hasHalves noPaint noLayout

/-- Of two spellings of one property the last one counts, when a layer is made and later. A name
that the map does not know is sent along later, and is a field of the layer itself when it is
made. -/
theorem Call.last_spelling_counts :
    ∃ asked,
      (((onToolkit "set_property" [.text "roads", .mapping [("lineWidth", .integer 1),
        ("sourceLayer", .text "streets"), ("lineCap", .text "round"),
        ("line-width", .integer 2)]] []).script .standard).run .idle .idle).2.requests = asked ∧
      HasHalves [("source-layer", .text "streets"),
        ("paint", .mapping [("line-width", .integer 2)]),
        ("layout", .mapping [("line-cap", .text "round")])] asked := by
  have taken (stage : Stage Unit) (r : Request) :
      ∃ value, (Stage.perform .idle r stage).1 = .ok value := ⟨.null, rfl⟩
  obtain ⟨-, asked, put, -, agree⟩ := sets_what_is_created .standard "roads"
    [("lineWidth", .integer 1), ("sourceLayer", .text "streets"), ("lineCap", .text "round"),
      ("line-width", .integer 2)] rfl rfl .idle .idle
    (Script.reply_of_mem (fun reply => ∃ value, reply = .ok value) taken _ _)
  exact ⟨asked, put, agree _ (.style rfl)⟩

end Cartography
