import Cartography.Proofs.Style.Spelling
import Cartography.Proofs.Toolkit.BatchStyling

/-!
# Properties in other spellings

It makes no difference in which spelling a property of a half is given. A style is assembled to the
same fields, and a batch comes to the same script, whatever its layers are: only the canonical name is
ever sent or noted.
-/

namespace Cartography

namespace Toolkit

theorem sendProperty_of_sameProperty {name other : String} (same : SameProperty name other)
    (layer : String) (value : Value) :
    sendProperty layer (.text other) value = sendProperty layer (.text name) value := by
  obtain ⟨alike, half⟩ := same.classify_eq
  simp only [sendProperty, alike]
  cases category : (classify name).category with
  | none => exact absurd category half
  | _ => rfl

/-- The entries of a mapping are sent alike in other spellings. -/
theorem forEach_of_respelled {properties others : Fields} (respelled : Respelled properties others)
    (layer : String) :
    (Script.forEach others fun entry => sendProperty layer (.text entry.1) entry.2) =
      Script.forEach properties fun entry => sendProperty layer (.text entry.1) entry.2 := by
  induction respelled with
  | nil => rfl
  | cons first _ ih =>
      obtain ⟨named, valued⟩ := first
      rw [Script.forEach, Script.forEach, valued, ih]
      rcases named with same | other
      · rw [same]
      · rw [sendProperty_of_sameProperty other]

/-- A batch checks its layers and sends the entries of its mapping to each of them. -/
theorem setProperty_mapping (layers : Value) (properties : Fields) (value : Value) :
    setProperty layers (.mapping properties) value =
      (Script.ofExcept (Identifiers.ofValue layers)).bind fun ids =>
        Script.forEach ids fun id =>
          Script.forEach properties fun entry => sendProperty id (.text entry.1) entry.2 := by
  have loop (id : String) := Script.forEach_map properties
    (fun entry => (Value.text entry.1, entry.2)) fun entry => sendProperty id entry.1 entry.2
  simp only [← loop]
  rfl

end Toolkit

theorem Call.script_of_respelled {properties others : Fields}
    (respelled : Respelled properties others) (settings : Settings) (layers : Value) :
    (setProperties layers others).script settings =
      (setProperties layers properties).script settings := by
  have same : Toolkit.setProperty layers (.mapping others) .null =
      Toolkit.setProperty layers (.mapping properties) .null := by
    simp only [Toolkit.setProperty_mapping, Toolkit.forEach_of_respelled respelled]
  exact congrArg Command.silent same

namespace PropertyName

/-- **A name stands for what its spellings stand for.** The names that come to a canonical name in
kebab case are its spellings, and none if it has a capital letter; so kebab case is kept. A name is
of a half, under a canonical name, just when it is a spelling of it and the table of the half has it.
Properties that are given in other spellings, each in its place, make the same style and the same
batch. -/
theorem spelling_fibres :
    (∀ name canonical, kebab name = canonical ↔
      HasNoCapital canonical ∧ IsSpelling canonical name) ∧
    (∀ name, kebab (kebab name) = kebab name) ∧
    (∀ name canonical, classify name = ⟨.paint, canonical⟩ ↔
      canonical ∈ paintNames ∧ IsSpelling canonical name) ∧
    (∀ name canonical, classify name = ⟨.layout, canonical⟩ ↔
      canonical ∈ layoutNames ∧ IsSpelling canonical name) ∧
    ∀ properties others, Respelled properties others →
      Style.build (.mapping others) = Style.build (.mapping properties) ∧
        ∀ settings layers, (Call.setProperties layers others).script settings =
          (Call.setProperties layers properties).script settings := by
  refine ⟨fun name canonical => kebab_eq_iff, ?_, ?_, ?_, ?_⟩
  · exact fun name => kebab_of_hasNoCapital (hasNoCapital_kebab name)
  · exact fun name canonical => Category.classify_eq_iff (nofun : Category.paint ≠ .none)
  · exact fun name canonical => Category.classify_eq_iff (nofun : Category.layout ≠ .none)
  · exact fun properties others respelled =>
      ⟨Style.build_of_respelled respelled, Call.script_of_respelled respelled⟩

/-- Of three properties one is given in camel case, one in a mixed spelling, and one is a field of
the layer itself, which stays as it is. -/
theorem spelling_fibres_of_mixed :
    let plain : Fields := [("line-width", .integer 1), ("minZoom", .integer 3),
      ("fill-extrusion-color", .text "red")]
    let mixed : Fields := [("lineWidth", .integer 1), ("minZoom", .integer 3),
      ("fill-extrusionColor", .text "red")]
    Respelled plain mixed ∧ Style.build (.mapping mixed) = Style.build (.mapping plain) ∧
      ∀ settings layers, (Call.setProperties layers mixed).script settings =
        (Call.setProperties layers plain).script settings := by
  intro plain mixed
  have same {canonical name : String} (comes : kebab name = canonical)
      (listed : canonical ∈ styleNames) : SameProperty canonical name :=
    ⟨canonical, listed, isSpelling_self canonical, (kebab_eq_iff.mp comes).2⟩
  have respelled : Respelled plain mixed :=
    .cons ⟨Or.inr (same rfl (by decide)), rfl⟩ (.cons ⟨Or.inl rfl, rfl⟩
      (.cons ⟨Or.inr (same rfl (by decide)), rfl⟩ .nil))
  exact ⟨respelled, spelling_fibres.2.2.2.2 plain mixed respelled⟩

end PropertyName

end Cartography
