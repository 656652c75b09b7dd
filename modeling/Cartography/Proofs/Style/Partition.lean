import Cartography.Proofs.Value.Entries
import Cartography.Style.Assembly

/-!
# The parts of a style

Every property goes to one part of the style, under the name it has there. Each part is made of
its properties alone, set in their order, so that of two properties with one name the later one
counts.

## Implementation notes

The three parts are treated alike: a part is given by the category of its properties. Only where
the parts are put together into the fields of a layer do the halves and the layer's own fields
differ.
-/

namespace Cartography.Style

/-- The name a property has in the part of the style that it belongs to. -/
def keptName (key : String) : String :=
  match (classify key).category with
  | .none => topName key
  | _ => (classify key).canonical

/-- The properties that belong to one part of the style, under their names there. -/
def entriesOf (category : Category) (properties : Fields) : Fields :=
  properties.filterMap fun entry =>
    if (classify entry.1).category = category then some (keptName entry.1, entry.2) else none

/-- The fields that one part of the style is made of. -/
def partOf (category : Category) (properties : Fields) : Fields :=
  Fields.merge [] (entriesOf category properties)

theorem entriesOf_cons (category : Category) (key : String) (value : Value) (rest : Fields) :
    entriesOf category ((key, value) :: rest) =
      if (classify key).category = category then (keptName key, value) :: entriesOf category rest
      else entriesOf category rest := by
  rw [entriesOf, List.filterMap_cons]
  split <;> split <;> simp_all [entriesOf]

theorem entriesOf_append (category : Category) (properties others : Fields) :
    entriesOf category (properties ++ others) =
      entriesOf category properties ++ entriesOf category others :=
  List.filterMap_append

theorem mem_entriesOf {category : Category} {properties : Fields} {entry : String × Value} :
    entry ∈ entriesOf category properties ↔
      ∃ property ∈ properties, (classify property.1).category = category ∧
        (keptName property.1, property.2) = entry := by
  simp [entriesOf, List.mem_filterMap]

/-- Properties are set in the parts of the style that they belong to. -/
theorem foldl_add (style : Style) (properties : Fields) :
    properties.foldl (fun style entry => style.add entry.1 entry.2) style =
      ⟨style.top.merge (entriesOf .none properties),
        style.paint.merge (entriesOf .paint properties),
        style.layout.merge (entriesOf .layout properties)⟩ := by
  induction properties generalizing style with
  | nil => rfl
  | cons entry rest ih =>
      obtain ⟨key, value⟩ := entry
      rw [List.foldl_cons, ih]
      simp only [entriesOf_cons, add]
      cases category : (classify key).category <;> simp [keptName, category]

/-- The parts of a style are those of its properties. -/
theorem ofProperties_eq (properties : Fields) :
    ofProperties properties =
      ⟨partOf .none properties, partOf .paint properties, partOf .layout properties⟩ :=
  foldl_add ⟨[], [], []⟩ properties

/-! ### What is found in one part -/

theorem get?_partOf (category : Category) (properties : Fields) (name : String) :
    (partOf category properties).get? name = (entriesOf category properties).last? name := by
  rw [partOf, Fields.get?_merge, Fields.get?_nil, Option.or_none]

/-- A part has nothing in it just when no property belongs to it. -/
theorem partOf_eq_nil {category : Category} {properties : Fields} :
    partOf category properties = [] ↔
      ∀ entry ∈ properties, (classify entry.1).category ≠ category := by
  simp [partOf, Fields.merge_eq_nil, entriesOf, List.filterMap_eq_nil_iff]

/-- In a part stands the value of the last property that has the name there. -/
theorem get?_partOf_eq_some_iff {category : Category} {properties : Fields} {name : String}
    {value : Value} :
    (partOf category properties).get? name = some value ↔
      ∃ before key after, properties = before ++ (key, value) :: after ∧
        (classify key).category = category ∧ keptName key = name ∧
        ∀ entry ∈ after, (classify entry.1).category = category → keptName entry.1 ≠ name := by
  rw [get?_partOf, Fields.last?_eq_some_iff]
  constructor
  · rintro ⟨first, later, listed, others⟩
    obtain ⟨before, rest, rfl, -, listedRest⟩ := List.filterMap_eq_append_iff.mp listed
    obtain ⟨skipped, ⟨key, found⟩, after, rfl, -, kept, rfl⟩ :=
      List.filterMap_eq_cons_iff.mp listedRest
    obtain ⟨own, rfl, rfl⟩ : (classify key).category = category ∧ keptName key = name ∧
        found = value := by simpa using kept
    refine ⟨before ++ skipped, key, after, by simp, own, rfl, ?_⟩
    intro entry member sibling
    exact others (keptName entry.1, entry.2) (mem_entriesOf.mpr ⟨entry, member, sibling, rfl⟩)
  · rintro ⟨before, key, after, rfl, rfl, rfl, others⟩
    refine ⟨entriesOf (classify key).category before, entriesOf (classify key).category after,
      ?_, ?_⟩
    · rw [entriesOf_append, entriesOf_cons, if_pos rfl]
    · intro entry member
      obtain ⟨property, listed, sibling, rfl⟩ := mem_entriesOf.mp member
      exact others property listed sibling

theorem keptName_of_own {key : String} (own : (classify key).category = .none) :
    keptName key = topName key := by
  simp [keptName, own]

/-- The own fields of a layer are the last properties with their names. -/
theorem get?_own_eq_some_iff {properties : Fields} {name : String} {value : Value} :
    (partOf .none properties).get? name = some value ↔
      ∃ before key after, properties = before ++ (key, value) :: after ∧
        (classify key).category = .none ∧ topName key = name ∧
        ∀ entry ∈ after, (classify entry.1).category = .none → topName entry.1 ≠ name := by
  rw [get?_partOf_eq_some_iff]
  constructor
  · rintro ⟨before, key, after, split, own, named, others⟩
    rw [keptName_of_own own] at named
    refine ⟨before, key, after, split, own, named, ?_⟩
    intro entry member sibling
    rw [← keptName_of_own sibling]
    exact others entry member sibling
  · rintro ⟨before, key, after, split, own, named, others⟩
    refine ⟨before, key, after, split, own, (keptName_of_own own).trans named, ?_⟩
    intro entry member sibling
    rw [keptName_of_own sibling]
    exact others entry member sibling

theorem topName_eq_iff {name : String} (notRenamed : name ≠ "source-layer")
    (notWritten : name ≠ "sourceLayer") (key : String) : topName key = name ↔ key = name := by
  unfold topName
  split
  · rename_i written
    rw [written]
    exact iff_of_false (Ne.symm notRenamed) (Ne.symm notWritten)
  · rfl

/-- A name that is kept as it is has the value of the last property with that name. -/
theorem get?_own_of_same {name : String} (properties : Fields)
    (own : (classify name).category = .none) (same : ∀ key, topName key = name ↔ key = name) :
    (partOf .none properties).get? name = properties.last? name := by
  apply Option.ext
  intro value
  rw [get?_own_eq_some_iff, Fields.last?_eq_some_iff]
  constructor
  · rintro ⟨before, key, after, split, -, named, others⟩
    obtain rfl := (same key).mp named
    refine ⟨before, after, split, ?_⟩
    intro entry member named'
    exact others entry member (named' ▸ own) ((same _).mpr named')
  · rintro ⟨before, after, split, others⟩
    refine ⟨before, name, after, split, own, (same name).mpr rfl, ?_⟩
    intro entry member _ named
    exact others entry member ((same _).mp named)

/-! ### What is found in the whole -/

theorem get?_withHalf (fields : Fields) (name : String) (half : Fields) (key : String) :
    (withHalf fields name half).get? key =
      if key = name ∧ half ≠ [] then some (.mapping half) else fields.get? key := by
  cases half with
  | nil => simp [withHalf]
  | cons entry rest => simp [withHalf, Fields.get?_set]

theorem distinct_withHalf {fields : Fields} (distinct : fields.Distinct) (name : String)
    (half : Fields) : (withHalf fields name half).Distinct := by
  rw [withHalf]
  split
  · exact distinct
  · exact distinct.set name _

/-- No name stands twice in a style. -/
theorem distinct_toFields (properties : Fields) :
    (ofProperties properties).toFields.Distinct := by
  have empty : Fields.Distinct [] := List.nodup_nil
  rw [ofProperties_eq]
  exact distinct_withHalf (distinct_withHalf (empty.merge _) "paint" _) "layout" _

/-- A half with something in it stands under its name; else the layer's own field does. -/
theorem get?_half (properties : Fields) {category : Category} (half : category ≠ .none) :
    (ofProperties properties).toFields.get? category.name =
      if partOf category properties = [] then (partOf .none properties).get? category.name
      else some (.mapping (partOf category properties)) := by
  rw [ofProperties_eq, toFields, get?_withHalf, get?_withHalf]
  cases category with
  | paint => simp [Category.name]
  | layout => simp [Category.name]
  | none => exact absurd rfl half

/-- Under every other name stands the layer's own field. -/
theorem get?_own (properties : Fields) {name : String} (noPaint : name ≠ "paint")
    (noLayout : name ≠ "layout") :
    (ofProperties properties).toFields.get? name = (partOf .none properties).get? name := by
  rw [ofProperties_eq, toFields, get?_withHalf, get?_withHalf, if_neg (by simp [noLayout]),
    if_neg (by simp [noPaint])]

end Cartography.Style
