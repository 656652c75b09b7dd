import Cartography.Source.Spec
import Cartography.Text.Search

/-!
# Inferring sources

A loose source argument stands for a source that is given on the spot or for the name of one
that is registered. The rules are tried in order: features, the scheme of a tile set, a template
of tile addresses, the ending of a feature document, and a name.
-/

namespace Cartography

/-- What a layer draws from. -/
inductive SourceReference
  | inline (spec : Fields)
  | named (name : String)

/-- The value of a layer's source field. -/
def SourceReference.toValue : SourceReference → Value
  | .inline spec => .mapping spec
  | .named name => .text name

namespace Settings

/-- Whether a text is the address of a vector tile set. -/
def isVectorUrl (s : Settings) (raw : String) : Bool :=
  s.vectorSchemes.any fun scheme => Text.startsWith raw scheme

/-- Whether a text is a template of tile addresses: it holds every placeholder. -/
def isTileTemplate (s : Settings) (raw : String) : Bool :=
  s.tilePlaceholders.all fun placeholder => Text.holds raw placeholder

/-- Whether a text in lower case ends like the address of a feature document. -/
def isGeojsonUrl (s : Settings) (raw : String) : Bool :=
  s.geojsonSuffixes.any fun suffix => Text.endsWith (Text.lower raw) suffix

end Settings

namespace SourceReference

/-- The source with the features given. -/
def features (data : Value) : SourceReference := .inline (GeojsonSource.toFields ⟨data, []⟩)

/-- What a text stands for. -/
def ofText (settings : Settings) (raw : String) : SourceReference :=
  if settings.isVectorUrl raw then .inline (VectorSource.toFields ⟨some raw, none, []⟩)
  else if settings.isTileTemplate raw then .inline (VectorSource.toFields ⟨none, some [raw], []⟩)
  else if settings.isGeojsonUrl raw then features (.text raw)
  else .named raw

/-- What a source argument stands for. -/
def infer (settings : Settings) : Value → Except Failure SourceReference
  | .mapping data => .ok (features (.mapping data))
  | .text raw => .ok (ofText settings raw)
  | other => .error (.breach (.sourceNotReference other.kind))

end SourceReference

end Cartography
