import Cartography.Proofs.Text.Lowered
import Cartography.Source.Loose

/-!
# What a text stands for as a source

The rules are tried in turn: the scheme of a tile set, a template of tile addresses, the ending of
a feature document, a name. The ending is looked for in the lower case of the text, but the endings
themselves are taken as the settings give them.
-/

namespace Cartography

/-- A text ends with another, as they stand, or without regard to the case of ASCII letters, or in
lower case. -/
def Text.EndsIn (raw ending : String) : Prop :=
  ending.toList <:+ raw.toList ∨ Text.foldAscii ending.toList <:+ Text.foldAscii raw.toList ∨
    ending.toList <:+ (Text.lower raw).toList

namespace Settings

/-- A text starts with the scheme of a vector tile set. -/
def HasScheme (s : Settings) (raw : String) : Prop :=
  ∃ scheme ∈ s.vectorSchemes, scheme.toList <+: raw.toList

/-- A text holds every placeholder of a template of tile addresses. -/
def HoldsPlaceholders (s : Settings) (raw : String) : Prop :=
  ∀ placeholder ∈ s.tilePlaceholders, placeholder.toList <:+: raw.toList

/-- A text ends like a feature document. -/
def HasSuffix (s : Settings) (raw : String) : Prop :=
  ∃ suffix ∈ s.geojsonSuffixes, Text.EndsIn raw suffix

/-- A text in lower case ends like a feature document. -/
def HasLoweredSuffix (s : Settings) (raw : String) : Prop :=
  ∃ suffix ∈ s.geojsonSuffixes, suffix.toList <:+ (Text.lower raw).toList

variable {s : Settings} {raw : String}

theorem isVectorUrl_iff : s.isVectorUrl raw = true ↔ s.HasScheme raw := by
  simp [isVectorUrl, HasScheme, Text.startsWith_iff]

theorem isTileTemplate_iff : s.isTileTemplate raw = true ↔ s.HoldsPlaceholders raw := by
  simp [isTileTemplate, HoldsPlaceholders, Text.holds_iff]

theorem isGeojsonUrl_iff : s.isGeojsonUrl raw = true ↔ s.HasLoweredSuffix raw := by
  simp [isGeojsonUrl, HasLoweredSuffix, Text.endsWith_iff]

instance : Decidable (s.HasScheme raw) := decidable_of_iff _ isVectorUrl_iff

instance : Decidable (s.HoldsPlaceholders raw) := decidable_of_iff _ isTileTemplate_iff

instance : Decidable (s.HasLoweredSuffix raw) := decidable_of_iff _ isGeojsonUrl_iff

theorem HasLoweredSuffix.hasSuffix (lowered : s.HasLoweredSuffix raw) : s.HasSuffix raw := by
  obtain ⟨suffix, listed, ends⟩ := lowered
  exact ⟨suffix, listed, Or.inr (Or.inr ends)⟩

/-- Suffixes without capital letters are found whatever the case of the text. -/
theorem HasSuffix.lowered (small : ∀ suffix ∈ s.geojsonSuffixes, Text.IsSmallAscii suffix.toList)
    (has : s.HasSuffix raw) : s.HasLoweredSuffix raw := by
  obtain ⟨suffix, listed, ends⟩ := has
  refine ⟨suffix, listed, ?_⟩
  rcases ends with literal | folded | lowered
  · exact Text.suffix_lower_of_fold (small suffix listed) (literal.map _)
  · exact Text.suffix_lower_of_fold (small suffix listed) folded
  · exact lowered

end Settings

namespace SourceReference

/-- The source that the rules give a text, by the first of them that applies. -/
structure Rules (settings : Settings) (raw : String) (found : SourceReference) : Prop where
  scheme : settings.HasScheme raw →
    found = .inline [("url", .text raw), ("type", .text "vector")]
  template : ¬ settings.HasScheme raw → settings.HoldsPlaceholders raw →
    found = .inline [("tiles", .list [.text raw]), ("type", .text "vector")]
  features : ¬ settings.HasScheme raw → ¬ settings.HoldsPlaceholders raw →
    settings.HasSuffix raw → found = .inline [("type", .text "geojson"), ("data", .text raw)]
  name : ¬ settings.HasScheme raw → ¬ settings.HoldsPlaceholders raw →
    ¬ settings.HasSuffix raw → found = .named raw

/-- A text is taken for a source, and for the one the rules give. -/
def FollowsRules (settings : Settings) (raw : String) : Prop :=
  ∃ found, infer settings (.text raw) = .ok found ∧ Rules settings raw found

variable {settings : Settings} {raw : String}

/-! ### What a text is taken for -/

theorem ofText_scheme (scheme : settings.HasScheme raw) :
    ofText settings raw = .inline [("url", .text raw), ("type", .text "vector")] := by
  rw [ofText, if_pos (Settings.isVectorUrl_iff.mpr scheme)]
  rfl

theorem ofText_template (noScheme : ¬ settings.HasScheme raw)
    (template : settings.HoldsPlaceholders raw) :
    ofText settings raw = .inline [("tiles", .list [.text raw]), ("type", .text "vector")] := by
  rw [ofText, if_neg (mt Settings.isVectorUrl_iff.mp noScheme),
    if_pos (Settings.isTileTemplate_iff.mpr template)]
  rfl

theorem ofText_features (noScheme : ¬ settings.HasScheme raw)
    (noTemplate : ¬ settings.HoldsPlaceholders raw) (suffix : settings.HasLoweredSuffix raw) :
    ofText settings raw = .inline [("type", .text "geojson"), ("data", .text raw)] := by
  rw [ofText, if_neg (mt Settings.isVectorUrl_iff.mp noScheme),
    if_neg (mt Settings.isTileTemplate_iff.mp noTemplate),
    if_pos (Settings.isGeojsonUrl_iff.mpr suffix)]
  rfl

theorem ofText_name (noScheme : ¬ settings.HasScheme raw)
    (noTemplate : ¬ settings.HoldsPlaceholders raw) (noSuffix : ¬ settings.HasLoweredSuffix raw) :
    ofText settings raw = .named raw := by
  rw [ofText, if_neg (mt Settings.isVectorUrl_iff.mp noScheme),
    if_neg (mt Settings.isTileTemplate_iff.mp noTemplate),
    if_neg (mt Settings.isGeojsonUrl_iff.mp noSuffix)]

/-! ### When the rules are followed -/

/-- A text with a suffix that its lower case does not show is taken for a name. -/
theorem lowered_of_rules (rules : Rules settings raw (ofText settings raw))
    (noScheme : ¬ settings.HasScheme raw) (noTemplate : ¬ settings.HoldsPlaceholders raw)
    (suffix : settings.HasSuffix raw) : settings.HasLoweredSuffix raw := by
  by_cases lowered : settings.HasLoweredSuffix raw
  · exact lowered
  · have inline := rules.features noScheme noTemplate suffix
    rw [ofText_name noScheme noTemplate lowered] at inline
    cases inline

theorem rules_of_lowered (lowered : ¬ settings.HasScheme raw → ¬ settings.HoldsPlaceholders raw →
    settings.HasSuffix raw → settings.HasLoweredSuffix raw) :
    Rules settings raw (ofText settings raw) where
  scheme := ofText_scheme
  template := ofText_template
  features noScheme noTemplate suffix :=
    ofText_features noScheme noTemplate (lowered noScheme noTemplate suffix)
  name noScheme noTemplate noSuffix :=
    ofText_name noScheme noTemplate fun found => noSuffix found.hasSuffix

/-- **When a text is taken for what the rules say.** A text is always taken for a source. It is the
one that the rules give exactly when the lower case of the text shows a suffix wherever no earlier
rule applies and the text ends with a suffix in any of the ways it can. -/
theorem followsRules_iff (settings : Settings) (raw : String) :
    FollowsRules settings raw ↔
      (¬ settings.HasScheme raw → ¬ settings.HoldsPlaceholders raw →
        settings.HasSuffix raw → settings.HasLoweredSuffix raw) := by
  constructor
  · rintro ⟨found, inferred, rules⟩
    obtain rfl : ofText settings raw = found := Except.ok.inj inferred
    exact lowered_of_rules rules
  · intro lowered
    exact ⟨_, rfl, rules_of_lowered lowered⟩

/-- A suffix with capital letters is not even found where a text ends with it as it stands. -/
theorem not_followsRules_of_capitals :
    ¬ FollowsRules { Settings.standard with geojsonSuffixes := [".GeoJSON"] } "parks.GeoJSON" := by
  rintro ⟨found, inferred, rules⟩
  have named : infer { Settings.standard with geojsonSuffixes := [".GeoJSON"] }
      (.text "parks.GeoJSON") = .ok (.named "parks.GeoJSON") := rfl
  obtain rfl := Except.ok.inj (named.symm.trans inferred)
  have inline := rules.features (by decide) (by decide)
    ⟨".GeoJSON", by decide, Or.inl (by decide)⟩
  cases inline

/-- Settings without capital letters in their suffixes follow the rules for every text. -/
theorem followsRules_of_small
    (small : ∀ suffix ∈ settings.geojsonSuffixes, Text.IsSmallAscii suffix.toList) (raw : String) :
    FollowsRules settings raw :=
  ⟨_, rfl, rules_of_lowered fun _ _ => Settings.HasSuffix.lowered small⟩

example (raw : String) : FollowsRules .standard raw := followsRules_of_small (by decide) raw

end SourceReference

end Cartography
