/-!
# Looking for one text in another
-/

namespace Cartography.Text

/-- Whether `part` occurs somewhere in a list of characters. -/
def occursIn (part : List Char) : List Char → Bool
  | [] => part.isEmpty
  | c :: rest => part.isPrefixOf (c :: rest) || occursIn part rest

/-- Whether a text holds another. -/
def holds (whole part : String) : Bool := occursIn part.toList whole.toList

/-- Whether a text starts with another. -/
def startsWith (whole start : String) : Bool := start.toList.isPrefixOf whole.toList

/-- Whether a text ends with another. -/
def endsWith (whole ending : String) : Bool := ending.toList.isSuffixOf whole.toList

theorem startsWith_iff {whole start : String} :
    startsWith whole start ↔ start.toList <+: whole.toList := by
  simp [startsWith]

theorem endsWith_iff {whole ending : String} :
    endsWith whole ending ↔ ending.toList <:+ whole.toList := by
  simp [endsWith]

theorem occursIn_iff {part whole : List Char} : occursIn part whole ↔ part <:+: whole := by
  induction whole with
  | nil => simp [occursIn]
  | cons c rest ih => simp [occursIn, List.infix_cons_iff, ih]

theorem holds_iff {whole part : String} : holds whole part ↔ part.toList <:+: whole.toList :=
  occursIn_iff

end Cartography.Text
