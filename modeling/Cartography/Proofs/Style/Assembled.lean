import Cartography.Proofs.Style.Partition

/-!
# Assembled styles

A style parts the properties it is assembled from. Each half holds the names of one table, with the
value of the last property that comes to the name in kebab case, and beside the halves there is
nothing but fields of the layer itself. To assemble a style once more changes nothing.

## Implementation notes

`Parts` tells the halves by the tables and by the properties as they stand, without the order in
which a style is put together.
-/

namespace Cartography

namespace Category

/-- The names of the properties of a category. -/
def table : Category → List String
  | paint => paintNames
  | layout => layoutNames
  | none => []

/-- No property is in both tables. -/
theorem not_mem_paintNames : ∀ name ∈ layoutNames, name ∉ paintNames := by
  decide +kernel

/-- A canonical name is of the category in whose table it is. -/
theorem of_eq_iff {category : Category} (half : category ≠ none) (name : String) :
    Category.of name = category ↔ name ∈ category.table := by
  rw [Category.of]
  cases category with
  | paint =>
      by_cases isPaint : name ∈ paintNames
      · simp [table, isPaint]
      · rw [if_neg isPaint]
        split <;> simp [table, isPaint]
  | layout =>
      by_cases isLayout : name ∈ layoutNames
      · simp [table, isLayout, not_mem_paintNames name isLayout]
      · rw [if_neg isLayout]
        split <;> simp [table, isLayout]
  | none => exact absurd rfl half

end Category

namespace Style

/-- The properties under their names in kebab case. -/
def inKebab (properties : Fields) : Fields :=
  properties.map fun entry => (PropertyName.kebab entry.1, entry.2)

/-- Fields part the properties among two halves and the layer itself. -/
structure Parts (properties fields : Fields) : Prop where
  half : ∀ category, category ≠ .none →
    (∃ entry ∈ properties, (classify entry.1).category = category) →
      ∃ part : Fields, fields.get? category.name = some (.mapping part) ∧ part.Distinct ∧
        ∀ name, part.get? name =
          if name ∈ category.table then (inKebab properties).last? name else none
  own : ∀ entry ∈ fields, (classify entry.1).category = .none
  absent : ∀ category, category ≠ .none →
    (∀ entry ∈ properties, (classify entry.1).category ≠ category) →
      properties.has category.name = false → fields.has category.name = false

/-! ### The halves -/

variable {category : Category} {properties : Fields}

/-- The properties of a half are those whose names in kebab case are in its table. -/
theorem entriesOf_half (half : category ≠ .none) (properties : Fields) :
    entriesOf category properties = (inKebab properties).keeping category.table.contains := by
  induction properties with
  | nil => rfl
  | cons entry rest ih =>
      obtain ⟨key, value⟩ := entry
      have listed : (classify key).category = category ↔
          PropertyName.kebab key ∈ category.table := Category.of_eq_iff half _
      rw [entriesOf_cons, ih]
      refine Eq.trans ?_ (Fields.keeping_cons _ _ (inKebab rest)).symm
      by_cases belongs : (classify key).category = category
      · have kept : keptName key = PropertyName.kebab key := by
          rw [keptName, belongs]
          cases category with
          | none => exact absurd rfl half
          | _ => rfl
        rw [if_pos belongs, if_pos (by simpa using listed.mp belongs), kept]
      · rw [if_neg belongs, if_neg (by simpa using mt listed.mpr belongs)]

/-- In a half stands, under every name of its table, the value of the last property that comes to
the name. -/
theorem get?_partOf_half (half : category ≠ .none) (properties : Fields) (name : String) :
    (partOf category properties).get? name =
      if name ∈ category.table then (inKebab properties).last? name else none := by
  rw [get?_partOf, entriesOf_half half, Fields.last?_keeping]
  simp only [List.contains_iff_mem]

theorem distinct_partOf (category : Category) (properties : Fields) :
    (partOf category properties).Distinct := by
  have empty : Fields.Distinct [] := List.nodup_nil
  exact empty.merge _

/-! ### Beside the halves -/

/-- A name of a half is not one of a property. -/
theorem category_name (category : Category) : (classify category.name).category = .none := by
  cases category <;> decide +kernel

theorem topName_own {key : String} (own : (classify key).category = .none) :
    (classify (topName key)).category = .none := by
  rw [topName]
  split
  · decide +kernel
  · exact own

/-- The old spelling of a renamed field is never kept. -/
theorem topName_ne (key : String) : topName key ≠ "sourceLayer" := by
  rw [topName]
  split
  · decide
  · assumption

/-- In the fields of a style stand the halves and the layer's own fields. -/
theorem mem_toFields {entry : String × Value}
    (member : entry ∈ (ofProperties properties).toFields) :
    (∃ category : Category, category ≠ .none ∧ entry.1 = category.name) ∨
      ∃ property ∈ properties, (classify property.1).category = .none ∧
        entry.1 = topName property.1 := by
  have withHalf {fields half : Fields} {name : String} (there : entry ∈ withHalf fields name half) :
      entry ∈ fields ∨ entry.1 = name := by
    rw [Style.withHalf] at there
    split at there
    · exact Or.inl there
    · exact (Fields.mem_of_mem_set there).imp_right (congrArg Prod.fst)
  rw [ofProperties_eq, toFields] at member
  rcases withHalf member with others | layout
  · rcases withHalf others with top | paint
    · rcases Fields.mem_of_mem_merge top with nothing | listed
      · cases nothing
      · obtain ⟨property, given, own, rfl⟩ := mem_entriesOf.mp listed
        exact Or.inr ⟨property, given, own, keptName_of_own own⟩
    · exact Or.inl ⟨.paint, by decide, paint⟩
  · exact Or.inl ⟨.layout, by decide, layout⟩

/-- No paint or layout property is left beside the halves, in whatever spelling. -/
theorem own_of_mem_toFields {entry : String × Value}
    (member : entry ∈ (ofProperties properties).toFields) :
    (classify entry.1).category = .none := by
  rcases mem_toFields member with ⟨category, -, named⟩ | ⟨property, -, own, named⟩
  · rw [named]
    exact category_name category
  · rw [named]
    exact topName_own own

theorem ne_of_mem_toFields {entry : String × Value}
    (member : entry ∈ (ofProperties properties).toFields) : entry.1 ≠ "sourceLayer" := by
  rcases mem_toFields member with ⟨category, -, named⟩ | ⟨property, -, -, named⟩
  · rw [named]
    cases category <;> decide
  · rw [named]
    exact topName_ne property.1

/-- Where no property has the name of a half, no field of the layer itself has it. -/
theorem get?_own_half_of_absent (absent : properties.has category.name = false) :
    (partOf .none properties).get? category.name = .none := by
  have same (key : String) : topName key = category.name ↔ key = category.name :=
    topName_eq_iff (by cases category <;> decide) (by cases category <;> decide) key
  rw [get?_own_of_same properties (category_name category) same, Fields.last?,
    Fields.get?_eq_none_iff]
  intro entry member
  exact Fields.has_eq_false_iff.mp absent entry (List.mem_reverse.mp member)

/-- A half that no property belongs to is there only as a field of the caller's own. -/
theorem has_half_of_absent (half : category ≠ .none)
    (none : ∀ entry ∈ properties, (classify entry.1).category ≠ category)
    (absent : properties.has category.name = false) :
    (ofProperties properties).toFields.has category.name = false := by
  have unfound : (ofProperties properties).toFields.get? category.name = .none := by
    rw [get?_half properties half, if_pos (partOf_eq_nil.mpr none), get?_own_half_of_absent absent]
  rw [Fields.has, ← Fields.get?, unfound]
  rfl

/-! ### Assembling once more -/

/-- Fields of a layer itself, none of them renamed, are their own style. -/
theorem toFields_of_own {fields : Fields} (distinct : fields.Distinct)
    (own : ∀ entry ∈ fields, (classify entry.1).category = .none)
    (kept : ∀ entry ∈ fields, entry.1 ≠ "sourceLayer") :
    (ofProperties fields).toFields = fields := by
  have nothing (category : Category) (half : category ≠ .none) : partOf category fields = [] :=
    partOf_eq_nil.mpr fun entry member belongs =>
      half (belongs.symm.trans (own entry member))
  have all : entriesOf .none fields = fields := by
    rw [entriesOf]
    refine (List.filterMap_congr fun entry member => ?_).trans List.filterMap_some
    have named : keptName entry.1 = entry.1 := by
      rw [keptName_of_own (own entry member), topName, if_neg (kept entry member)]
    rw [if_pos (own entry member), named]
  calc (ofProperties fields).toFields
      = (⟨partOf .none fields, [], []⟩ : Style).toFields := by
        rw [ofProperties_eq, nothing .paint (by decide), nothing .layout (by decide)]
    _ = Fields.merge [] fields := by rw [toFields, partOf, all]; rfl
    _ = fields := @Fields.merge_eq_append [] fields distinct

/-- **A style parts its properties, and is its own style.** Each half that a property belongs to
holds exactly the names of its table that properties come to, each with the value of the last of
them. Nothing else is a paint or a layout property, and a half without properties is there only as a
field of the caller's own. To assemble the style once more leaves it as it is. -/
theorem build_parts (properties : Fields) :
    ∃ fields, build (.mapping properties) = .ok fields ∧ fields.Distinct ∧
      Parts properties fields ∧ build (.mapping fields) = .ok fields := by
  refine ⟨(ofProperties properties).toFields, rfl, distinct_toFields properties, ?_, ?_⟩
  · constructor
    · rintro category half ⟨entry, member, belongs⟩
      refine ⟨partOf category properties, ?_, distinct_partOf category properties,
        get?_partOf_half half properties⟩
      rw [get?_half properties half, if_neg]
      exact fun empty => partOf_eq_nil.mp empty entry member belongs
    · exact fun entry member => own_of_mem_toFields member
    · exact fun category half none absent => has_half_of_absent half none absent
  · have again := toFields_of_own (distinct_toFields properties)
      (fun entry member => own_of_mem_toFields member) fun entry member => ne_of_mem_toFields member
    rw [build, again]

/-- Of two spellings the last one counts, and a half that has properties takes the place of a field
of the caller's own. -/
example : build (.mapping [("line-width", .integer 1), ("paint", .text "flat"),
    ("lineWidth", .integer 2), ("minzoom", .integer 3)]) =
      .ok [("paint", .mapping [("line-width", .integer 2)]), ("minzoom", .integer 3)] := rfl

end Style

end Cartography
