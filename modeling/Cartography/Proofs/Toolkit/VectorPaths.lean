import Cartography.Proofs.Source.Rules
import Cartography.Proofs.Toolkit.Registering

/-!
# Two ways from a text to a vector source

A text is taken for a vector source by the rules for loose arguments, or because the caller says
that it is one. The rules look for the scheme of a tile set first and for placeholders second. Where
the source is said to be a vector source, placeholders are all that is looked for.
-/

namespace Cartography

/-- A source is one of vector tiles. -/
def Fields.IsVector (spec : Fields) : Prop := spec.get? "type" = some (.text "vector")

/-- A text that is taken for a vector source gives the same source where it is said to be one, and
an operation that registers it as a vector source registers what the other one does. -/
structure VectorPathsAgree (settings : Settings) (raw : String) : Prop where
  inferred : ∀ spec, SourceReference.infer settings (.text raw) = .ok (.inline spec) →
    spec.IsVector → Source.vector settings (.text raw) [] = .ok spec
  registered : ∀ id spec,
    ((Command.addSource id (.text raw)).script settings).Registers id spec → spec.IsVector →
      ((Command.addVector id (.text raw) []).script settings).Registers id spec

namespace VectorPathsAgree

variable {settings : Settings} {raw : String} {spec : Fields}

/-! ### A text that is said to be a vector source -/

theorem vector_template (template : settings.HoldsPlaceholders raw) :
    Source.vector settings (.text raw) [] =
      .ok [("tiles", .list [.text raw]), ("type", .text "vector")] := by
  have holds : settings.isTileTemplate raw = true := Settings.isTileTemplate_iff.mpr template
  simp only [Source.vector, Source.tiledFields, holds, if_true]
  rfl

theorem vector_url (noTemplate : ¬ settings.HoldsPlaceholders raw) :
    Source.vector settings (.text raw) [] =
      .ok [("url", .text raw), ("type", .text "vector")] := by
  have lacks : settings.isTileTemplate raw = false :=
    Bool.eq_false_iff.mpr (mt Settings.isTileTemplate_iff.mp noTemplate)
  simp only [Source.vector, Source.tiledFields, lacks, Bool.false_eq_true, if_false]
  rfl

/-! ### Where both ways meet -/

/-- Unless a text has a scheme and all the placeholders, what the rules take for a vector source is
the one that the text is said to be. -/
theorem vector_of_ofText (apart : ¬ (settings.HasScheme raw ∧ settings.HoldsPlaceholders raw))
    (found : SourceReference.ofText settings raw = .inline spec) (vector : spec.IsVector) :
    Source.vector settings (.text raw) [] = .ok spec := by
  by_cases scheme : settings.HasScheme raw
  · have noTemplate : ¬ settings.HoldsPlaceholders raw := fun template => apart ⟨scheme, template⟩
    rw [SourceReference.ofText_scheme scheme] at found
    cases found
    exact vector_url noTemplate
  · by_cases template : settings.HoldsPlaceholders raw
    · rw [SourceReference.ofText_template scheme template] at found
      cases found
      exact vector_template template
    · by_cases suffix : settings.HasLoweredSuffix raw
      · rw [SourceReference.ofText_features scheme template suffix] at found
        cases found
        simp [Fields.IsVector, Fields.get?_cons] at vector
      · rw [SourceReference.ofText_name scheme template suffix] at found
        cases found

theorem vector_of_looseSource
    (apart : ¬ (settings.HasScheme raw ∧ settings.HoldsPlaceholders raw))
    (built : Toolkit.looseSource settings (.text raw) = .ok spec) (vector : spec.IsVector) :
    Source.vector settings (.text raw) [] = .ok spec := by
  rw [Toolkit.looseSource] at built
  split at built
  · rename_i found
    cases built
    exact vector_of_ofText apart found vector
  · exact built

theorem of_apart (apart : ¬ (settings.HasScheme raw ∧ settings.HoldsPlaceholders raw)) :
    VectorPathsAgree settings raw where
  inferred spec found vector :=
    vector_of_ofText apart (Except.ok.inj found) vector
  registered id spec registers vector := by
    rw [Toolkit.script_addSource, Toolkit.registers_iff] at registers
    rw [Toolkit.script_addVector, Toolkit.registers_iff]
    exact ⟨vector_of_looseSource apart registers.1 vector, registers.2⟩

/-- With a scheme and all the placeholders, a text has a URL by the rules and a template
otherwise. -/
theorem apart_of_agree (agree : VectorPathsAgree settings raw) :
    ¬ (settings.HasScheme raw ∧ settings.HoldsPlaceholders raw) := by
  rintro ⟨scheme, template⟩
  have same := agree.inferred _ (congrArg Except.ok (SourceReference.ofText_scheme scheme)) rfl
  rw [vector_template template] at same
  simp at same

end VectorPathsAgree

/-- **When the two ways agree.** They make and register the same vector source of a text exactly
when the text does not both start with a scheme and hold all the placeholders. -/
theorem vectorPathsAgree_iff (settings : Settings) (raw : String) :
    VectorPathsAgree settings raw ↔
      ¬ (settings.HasScheme raw ∧ settings.HoldsPlaceholders raw) := by
  constructor
  · exact VectorPathsAgree.apart_of_agree
  · exact VectorPathsAgree.of_apart

/-- A template on a host of tile sets has a URL by the rules, but is not said to have one. -/
theorem not_vectorPathsAgree_of_template :
    ¬ VectorPathsAgree .standard "mapbox://user.tiles/\x7bz\x7d/\x7bx\x7d/\x7by\x7d" := by
  intro agree
  exact agree.apart_of_agree (by decide)

end Cartography
