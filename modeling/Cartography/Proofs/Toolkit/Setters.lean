import Cartography.Proofs.Style.Spelling
import Cartography.Proofs.Toolkit.BatchStyling

/-!
# Setters by name

Besides its own names a toolkit answers to the names of setters: `set_` and a property of a half in
any spelling, with underscores for any of its hyphens. It answers to no others. A setter does what is
done for its property by the operation that takes any.

## Implementation notes

A name that is the toolkit's own is never looked up among the setters. The names that every object has
besides start with underscores, so that none of them could be a setter's.
-/

namespace Cartography

open PropertyName

namespace Callable

/-- The names of the operations of a toolkit. -/
def operations : List String :=
  ["__call__", "properties", "layer_style", "set_property", "show", "hide", "toggle", "set_filter",
    "register_layer", "add", "add_background", "remove_layer", "add_source", "add_geojson",
    "add_vector", "add_raster_source", "add_raster_dem_source", "remove_source", "update",
    "set_data"] ++ layerAdders.map (·.1)

/-- The names that are a toolkit's own: those of its operations, that of the operation that takes a
callback, and those of what its operations share. -/
def ownNames : List String :=
  operations ++ ["on_load", "host", "config", "logger", "_dispatch_property", "_set_single",
    "_register_source", "_suppress_missing_errors"]

/-- A name is that of the setter of a property: a spelling of the property comes behind `set_`, with
underscores for hyphens. -/
def Sets (name property : String) : Prop :=
  property ∈ styleNames ∧
    ∃ rest, name = "set_" ++ rest ∧ IsSpelling property (PropertyName.ofSnake rest)

/-- The ways to give a setter its layers and its value: in order or by name. -/
inductive Passes (layers value : Value) : List Value → Fields → Prop
  | inOrder : Passes layers value [layers, value] []
  | valueByName : Passes layers value [layers] [("value", value)]
  | byName : Passes layers value [] [("layers", layers), ("value", value)]
  | valueFirst : Passes layers value [] [("value", value), ("layers", layers)]

/-! ### What a name stands for -/

variable {name property : String}

theorem ofName?_of_not_mem (unlisted : name ∉ operations) : ofName? name = none := by
  unfold ofName?
  split
  case h_21 =>
    rw [Option.map_eq_none_iff, List.lookup_eq_none_iff]
    intro entry member
    have other : name ≠ entry.1 := fun same =>
      unlisted (List.mem_append_right _ (same ▸ List.mem_map_of_mem member))
    simpa using other
  all_goals exact absurd (by decide) unlisted

/-- A name is looked up as that of a setter exactly when it is one. -/
theorem setterProperty?_eq_some_iff : setterProperty? name = some property ↔ Sets name property := by
  have behind {rest : List Char} (split : name.toList = 's' :: 'e' :: 't' :: '_' :: rest) :
      name = "set_" ++ String.ofList rest := by
    rw [← String.toList_inj, split]
    simp
  unfold setterProperty?
  split
  · rename_i rest split
    have found : (if (classify (ofSnake (String.ofList rest))).isStyle = true then
        some (classify (ofSnake (String.ofList rest))).canonical else none) = some property ↔
          property ∈ styleNames ∧ IsSpelling property (ofSnake (String.ofList rest)) := by
      rw [← isStyle_iff]
      simp
    refine found.trans ⟨?_, ?_⟩
    · rintro ⟨listed, spelled⟩
      exact ⟨listed, String.ofList rest, behind split, spelled⟩
    · rintro ⟨listed, other, named, spelled⟩
      obtain rfl : String.ofList rest = other := by
        rw [named, String.toList_append] at split
        rw [← String.toList_inj, String.toList_ofList]
        have tails : "set_".toList ++ other.toList = "set_".toList ++ rest := split
        exact (List.append_cancel_left tails).symm
      exact ⟨listed, spelled⟩
  · rename_i noSetter
    constructor
    · exact nofun
    · rintro ⟨-, rest, rfl, -⟩
      exact absurd (String.toList_append ..) (noSetter rest.toList)

theorem setterProperty?_of_own : ∀ name ∈ ownNames, setterProperty? name = none := by
  decide +kernel

/-- None of a toolkit's own names is that of a setter. -/
theorem Sets.not_own (sets : Sets name property) : name ∉ ownNames := by
  intro own
  rw [← setterProperty?_eq_some_iff, setterProperty?_of_own name own] at sets
  cases sets

theorem not_operation_of_not_own (unowned : name ∉ ownNames) : name ∉ operations :=
  fun listed => unowned (List.mem_append_left _ listed)

theorem resolve_of_sets (sets : Sets name property) : resolve name = .ok (setter property) := by
  rw [resolve, ofName?_of_not_mem (not_operation_of_not_own sets.not_own),
    setterProperty?_eq_some_iff.mpr sets]

/-- Where there is no setter of the name either, the toolkit does not answer to it. -/
theorem resolve_of_unset (unowned : name ∉ ownNames) (unset : ¬ ∃ property, Sets name property) :
    resolve name = .error (.noAttribute "MapUtils" name) := by
  have missing : setterProperty? name = none := by
    rw [Option.eq_none_iff_forall_ne_some]
    exact fun property found => unset ⟨property, setterProperty?_eq_some_iff.mp found⟩
  rw [resolve, ofName?_of_not_mem (not_operation_of_not_own unowned), missing]

/-- However a setter is given its layers and its value, it makes the command that sets its
property. -/
theorem apply_setter {layers value : Value} {arguments : List Value} {named : Fields}
    (passes : Passes layers value arguments named) (property : String) :
    (setter property).apply arguments named =
      .ok (.setProperty layers (.text property) value) := by
  cases passes <;> rfl

/-- **Setters are those of the known properties.** Apart from its own names, a toolkit answers to a
name exactly when it is that of the setter of a property of a half, and has no attribute of the name
otherwise. None of its own names is that of a setter. On every setter, a call with whatever layers and
value does what setting the property does. -/
theorem setters_resolve :
    (∀ name, name ∉ ownNames →
      ((∃ callable, resolve name = .ok callable) ↔ ∃ property, Sets name property) ∧
        ((¬ ∃ property, Sets name property) →
          resolve name = .error (.noAttribute "MapUtils" name))) ∧
    ∀ name property, Sets name property → name ∉ ownNames ∧
      ∀ settings layers value arguments named, Passes layers value arguments named →
        (Call.onToolkit name arguments named).script settings =
          (Call.setProperty layers property value).script settings := by
  constructor
  · intro name unowned
    refine ⟨⟨?_, ?_⟩, resolve_of_unset unowned⟩
    · rintro ⟨callable, found⟩
      by_contra unset
      rw [resolve_of_unset unowned unset] at found
      cases found
    · rintro ⟨property, sets⟩
      exact ⟨setter property, resolve_of_sets sets⟩
  · intro name property sets
    refine ⟨sets.not_own, fun settings layers value arguments named passes => ?_⟩
    rw [Call.script, Call.command, resolve_of_sets sets, ok_bind, apply_setter passes]
    rfl

/-- The underscores of a setter's name may stand beside a capital letter. There is no setter of a
property that is in neither table. -/
theorem setters_resolve_of_mixed :
    ("set_fill_outlineColor" ∉ ownNames ∧
        (∃ callable, resolve "set_fill_outlineColor" = .ok callable)) ∧
      ("set_min_zoom" ∉ ownNames ∧ (¬ ∃ property, Sets "set_min_zoom" property) ∧
        resolve "set_min_zoom" = .error (.noAttribute "MapUtils" "set_min_zoom")) ∧
      Sets "set_fill_outlineColor" "fill-outline-color" ∧
      Passes (.text "parks") (.text "red") [.text "parks"] [("value", .text "red")] ∧
      (Call.onToolkit "set_fill_outlineColor" [.text "parks"]
          [("value", .text "red")]).script .standard =
        (Call.setProperty (.text "parks") "fill-outline-color" (.text "red")).script .standard := by
  have unowned : "set_fill_outlineColor" ∉ ownNames ∧ "set_min_zoom" ∉ ownNames := by decide
  have sets : Sets "set_fill_outlineColor" "fill-outline-color" :=
    setterProperty?_eq_some_iff.mp (by decide +kernel)
  have unset : ¬ ∃ property, Sets "set_min_zoom" property := by
    have missing : setterProperty? "set_min_zoom" = none := by decide +kernel
    rintro ⟨property, other⟩
    rw [← setterProperty?_eq_some_iff, missing] at other
    cases other
  obtain ⟨resolves, sent⟩ := setters_resolve
  exact ⟨⟨unowned.1, (resolves _ unowned.1).1.mpr ⟨_, sets⟩⟩,
    ⟨unowned.2, unset, (resolves _ unowned.2).2 unset⟩, sets, .valueByName,
    (sent _ _ sets).2 _ _ _ _ _ .valueByName⟩

end Callable

end Cartography
