import Cartography.Proofs.Style.Partition

/-!
# The layer's own fields in a style

Properties in neither table are fields of the layer itself and pass into the style as they are.
The halves of the style are put in last, under names that an own field can have too.
-/

namespace Cartography

/-- Whether a value has nothing in it. -/
def Value.isEmpty : Value → Bool
  | .text s => s == ""
  | .list items => items.isEmpty
  | .mapping entries => entries.isEmpty
  | _ => false

namespace Style

/-- The fields of a style hold the own fields among the properties as they are, of those with one
name the last, and no half with nothing in it. -/
structure KeepsOwnFields (properties fields : Fields) : Prop where
  kept : ∀ before key value after, properties = before ++ (key, value) :: after →
    (classify key).category = .none →
    (∀ entry ∈ after, (classify entry.1).category = .none → topName entry.1 ≠ topName key) →
    fields.get? (topName key) = some value
  filled : ∀ half ∈ ["paint", "layout"], ∀ value, fields.get? half = some value →
    value.isEmpty = false

/-- The style of a mapping of properties is built, and it keeps the own fields. -/
def LosesNoField (properties : Fields) : Prop :=
  ∃ fields, build (.mapping properties) = .ok fields ∧ KeepsOwnFields properties fields

/-- An own field with the name of a half is that half, or the half has no properties and the
field has something in it. -/
def OwnHalvesFit (properties : Fields) : Prop :=
  ∀ category, category ≠ .none → ∀ value,
    (partOf .none properties).get? category.name = some value →
      if partOf category properties = [] then value.isEmpty = false
      else value = .mapping (partOf category properties)

/-- A name is that of a half, or of neither. -/
theorem half_or_other (name : String) :
    (∃ category : Category, category ≠ .none ∧ name = category.name) ∨
      (name ≠ "paint" ∧ name ≠ "layout") := by
  by_cases paint : name = "paint"
  · exact Or.inl ⟨.paint, by decide, paint⟩
  · by_cases layout : name = "layout"
    · exact Or.inl ⟨.layout, by decide, layout⟩
    · exact Or.inr ⟨paint, layout⟩

/-- Where the own fields fit, they are kept. -/
theorem keeps_of_fit {properties : Fields} (fit : OwnHalvesFit properties) :
    KeepsOwnFields properties (ofProperties properties).toFields where
  kept before key value after split own others := by
    have found : (partOf .none properties).get? (topName key) = some value :=
      get?_own_eq_some_iff.mpr ⟨before, key, after, split, own, rfl, others⟩
    rcases half_or_other (topName key) with ⟨category, half, named⟩ | ⟨noPaint, noLayout⟩
    · rw [named] at found ⊢
      have fits := fit category half value found
      rw [get?_half properties half]
      split at fits
      · rename_i empty
        rw [if_pos empty, found]
      · rename_i filled
        rw [if_neg filled, fits]
    · rw [get?_own properties noPaint noLayout, found]
  filled name listed value found := by
    obtain ⟨category, half, rfl⟩ :
        ∃ category : Category, category ≠ .none ∧ name = category.name := by
      rcases half_or_other name with isHalf | other
      · exact isHalf
      · simp [other] at listed
    rw [get?_half properties half] at found
    split at found
    · rename_i empty
      have fits := fit category half value found
      rwa [if_pos empty] at fits
    · rename_i filled
      obtain rfl := Option.some.inj found
      simpa [Value.isEmpty] using filled

/-- Where the own fields are kept, they fit. -/
theorem fit_of_keeps {properties : Fields}
    (keeps : KeepsOwnFields properties (ofProperties properties).toFields) :
    OwnHalvesFit properties := by
  intro category half value found
  obtain ⟨before, key, after, split, own, named, others⟩ := get?_own_eq_some_iff.mp found
  have held := keeps.kept before key value after split own (named ▸ others)
  rw [named] at held
  split
  · refine keeps.filled category.name ?_ value held
    cases category with
    | paint => decide
    | layout => decide
    | none => exact absurd rfl half
  · rename_i filled
    rw [get?_half properties half, if_neg filled] at held
    exact (Option.some.inj held).symm

/-- **When a style loses none of the layer's own fields.** It holds the last own field of every
name as it is, and no empty half, exactly when no own field that has the name of a half is at odds
with that half. -/
theorem losesNoField_iff (properties : Fields) :
    LosesNoField properties ↔ OwnHalvesFit properties := by
  constructor
  · rintro ⟨fields, built, keeps⟩
    obtain rfl := Except.ok.inj built
    exact fit_of_keeps keeps
  · intro fit
    exact ⟨_, rfl, keeps_of_fit fit⟩

/-- A paint half of the caller's own is lost to a paint property, and an empty one is left in
place. -/
theorem losesField_of_paint :
    ¬ LosesNoField
        [("paint", .mapping [("line-width", .integer 1)]), ("lineColor", .text "red")] ∧
      ¬ LosesNoField [("paint", .mapping [])] := by
  constructor
  · rintro ⟨fields, built, keeps⟩
    obtain rfl := Except.ok.inj built
    have held := keeps.kept [] "paint" _ _ rfl (by decide) (by decide)
    have stands : Fields.get? (ofProperties
        [("paint", .mapping [("line-width", .integer 1)]), ("lineColor", .text "red")]).toFields
          (topName "paint") = some (.mapping [("line-color", .text "red")]) := rfl
    rw [stands] at held
    simp at held
  · rintro ⟨fields, built, keeps⟩
    obtain rfl := Except.ok.inj built
    have filled := keeps.filled "paint" (by decide) (.mapping []) rfl
    cases filled

end Style

end Cartography
