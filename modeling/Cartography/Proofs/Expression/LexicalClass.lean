import Cartography.Expression.Lexeme
import Cartography.Text.Blank
import Cartography.Proofs.Number.WrittenNumeral

/-!
# Lexical classes

Which texts are a token of which class: brackets and commas, quoted texts, numerals, names and
operators. What a token starts with tells its class.

## Implementation notes

The classes are stated without the readers, which the next module sets against them.
-/

namespace Cartography.Lexeme

/-- The characters behind an opening quote up to the first quote that no backslash hides, and the
text they stand for. -/
inductive WritesBody (quote : Char) : List Char → List Char → Prop
  | close : WritesBody quote [quote] []
  | escape (escaped : Char) {raw inner : List Char} (following : WritesBody quote raw inner) :
      WritesBody quote ('\\' :: escaped :: raw) (unescape escaped :: inner)
  | plain {c : Char} {raw inner : List Char} (other : c ≠ quote) (shown : c ≠ '\\')
      (following : WritesBody quote raw inner) : WritesBody quote (c :: raw) (c :: inner)

/-- The characters of a token. -/
inductive Spells : List Char → Token → Prop
  | punctuation {c : Char} {token : Token} (found : punctuation? c = some token) :
      Spells [c] token
  | quoted {quote : Char} {raw inner : List Char} (opens : isQuote quote = true)
      (body : WritesBody quote raw inner) : Spells (quote :: raw) (.text (String.ofList inner))
  | numeral {w : List Char} {n : Numeral} (written : Numeral.Writes w n) :
      Spells w (.number n.number)
  | name {c : Char} {others : List Char} (starts : isNameStart c = true)
      (parts : ∀ d ∈ others, isNamePart d = true) :
      Spells (c :: others) (.name (String.ofList (c :: others)))
  | operator {w : List Char} (o : Operator) (written : w = o.symbol.toList) :
      Spells w (.operator o)

/-! ### First characters -/

/-- What a token can start with. -/
inductive Lead
  | mark
  | quote
  | digit
  | letter
  | sign
  deriving DecidableEq

/-- What a character starts. -/
def lead (c : Char) : Lead :=
  if (punctuation? c).isSome then .mark
  else if isQuote c then .quote
  else if Text.isDigit c || c == '.' then .digit
  else if isNameStart c then .letter
  else .sign

/-- What a token starts with. -/
def leadOf : Token → Lead
  | .number _ => .digit
  | .text _ => .quote
  | .name _ => .letter
  | .operator _ => .sign
  | .opening | .closing | .comma => .mark

theorem punctuation?_eq_some {c : Char} {token : Token} (h : punctuation? c = some token) :
    (c = '(' ∧ token = .opening) ∨ (c = ')' ∧ token = .closing) ∨ (c = ',' ∧ token = .comma) := by
  unfold punctuation? at h
  split at h <;> simp_all

theorem isQuote_iff {c : Char} : isQuote c = true ↔ c = '"' ∨ c = '\'' := by
  simp [isQuote]

/-- The decimal digits lie between the blanks. -/
theorem isDigit_ranges {c : Char} (h : Text.isDigit c = true) :
    (0x30 ≤ c.toNat ∧ c.toNat < 0x3a) ∨ (0x660 ≤ c.toNat ∧ c.toNat < 0x1680) ∨
      (0x1680 < c.toNat ∧ c.toNat < 0x2000) ∨ 0x3000 < c.toNat := by
  have zeros : ∀ first ∈ Text.digitZeros, first = 0x30 ∨ (0x660 ≤ first ∧ first + 10 ≤ 0x1680) ∨
      (0x1680 < first ∧ first + 10 ≤ 0x2000) ∨ 0x3000 < first := by decide
  obtain ⟨first, listed, found⟩ := List.findSome?_isSome_iff.mp h
  have near : first ≤ c.toNat ∧ c.toNat < first + 10 := by
    by_cases inside : first ≤ c.toNat ∧ c.toNat < first + 10
    · exact inside
    · simp [inside] at found
  have place := zeros first listed
  omega

theorem isNameStart_ranges {c : Char} (h : isNameStart c = true) :
    0x41 ≤ c.toNat ∧ c.toNat < 0x7b := by
  simp only [isNameStart, Bool.or_eq_true, Bool.and_eq_true, decide_eq_true_eq, Char.le_def,
    UInt32.le_iff_toNat_le, beq_iff_eq] at h
  have code : c.val.toNat = c.toNat := rfl
  rcases h with (⟨low, high⟩ | ⟨low, high⟩) | rfl
  · simp at low high
    omega
  · simp at low high
    omega
  · decide

theorem lead_of_punctuation? {c : Char} {token : Token} (h : punctuation? c = some token) :
    lead c = leadOf token := by
  rcases punctuation?_eq_some h with ⟨rfl, rfl⟩ | ⟨rfl, rfl⟩ | ⟨rfl, rfl⟩ <;> rfl

theorem lead_of_isQuote {c : Char} (h : isQuote c = true) : lead c = .quote := by
  rcases isQuote_iff.mp h with rfl | rfl <;> rfl

/-- A class without brackets, commas and quotes has no character that is one of these. -/
theorem neither_mark_nor_quote {p : Char → Bool} {c : Char} (h : p c = true)
    (outside : ['(', ')', ',', '"', '\''].any p = false) :
    punctuation? c = none ∧ isQuote c = false := by
  have unlisted : ∀ d ∈ ['(', ')', ',', '"', '\''], ¬ p d = true := List.any_eq_false.mp outside
  constructor
  · apply Option.eq_none_iff_forall_ne_some.mpr
    intro token found
    rcases punctuation?_eq_some found with ⟨rfl, -⟩ | ⟨rfl, -⟩ | ⟨rfl, -⟩ <;>
      exact unlisted _ (by simp) h
  · apply Bool.eq_false_iff.mpr
    intro opens
    rcases isQuote_iff.mp opens with rfl | rfl <;> exact unlisted _ (by simp) h

theorem lead_of_isDigit {c : Char} (h : Text.isDigit c = true) : lead c = .digit := by
  obtain ⟨unmarked, unquoted⟩ := neither_mark_nor_quote h (by decide)
  simp [lead, unmarked, unquoted, h]

theorem lead_of_isNameStart {c : Char} (h : isNameStart c = true) : lead c = .letter := by
  obtain ⟨unmarked, unquoted⟩ := neither_mark_nor_quote h (by decide)
  have letters := isNameStart_ranges h
  have undigited : Text.isDigit c = false := by
    apply Bool.eq_false_iff.mpr
    intro digit
    have digits := isDigit_ranges digit
    omega
  have unpointed : c ≠ '.' := by
    rintro rfl
    exact absurd h (by decide)
  simp [lead, unmarked, unquoted, undigited, unpointed, h]

/-- The characters of a token start with what tells its class. -/
theorem lead_of_spells {c : Char} {cs : List Char} {token : Token} (h : Spells (c :: cs) token) :
    lead c = leadOf token := by
  generalize written : c :: cs = w at h
  cases h with
  | punctuation found =>
      obtain ⟨rfl, -⟩ := List.cons.inj written
      exact lead_of_punctuation? found
  | quoted opens body =>
      obtain ⟨rfl, -⟩ := List.cons.inj written
      exact lead_of_isQuote opens
  | numeral writes =>
      subst written
      rcases Numeral.head_of_writes writes with digit | rfl
      · exact lead_of_isDigit digit
      · rfl
  | name starts parts =>
      obtain ⟨rfl, -⟩ := List.cons.inj written
      exact lead_of_isNameStart starts
  | operator o symbol =>
      subst symbol
      cases o <;> (obtain ⟨rfl, -⟩ := List.cons.inj written; rfl)

theorem ne_nil_of_spells {w : List Char} {token : Token} (h : Spells w token) : w ≠ [] := by
  cases h with
  | numeral writes => exact Numeral.ne_nil_of_writes writes
  | operator o symbol =>
      subst symbol
      cases o <;> decide
  | _ => simp

theorem isBlank_of_isDigit {c : Char} (h : Text.isDigit c = true) : Text.isBlank c = false := by
  have := isDigit_ranges h
  simp [Text.isBlank, Text.isSpace]
  omega

theorem isBlank_of_isNameStart {c : Char} (h : isNameStart c = true) :
    Text.isBlank c = false := by
  have := isNameStart_ranges h
  simp [Text.isBlank, Text.isSpace]
  omega

/-- No blank starts a token. -/
theorem isBlank_of_spells {c : Char} {cs : List Char} {token : Token}
    (h : Spells (c :: cs) token) : Text.isBlank c = false := by
  generalize written : c :: cs = w at h
  cases h with
  | punctuation found =>
      obtain ⟨rfl, -⟩ := List.cons.inj written
      rcases punctuation?_eq_some found with ⟨rfl, -⟩ | ⟨rfl, -⟩ | ⟨rfl, -⟩ <;> decide
  | quoted opens body =>
      obtain ⟨rfl, -⟩ := List.cons.inj written
      rcases isQuote_iff.mp opens with rfl | rfl <;> decide
  | numeral writes =>
      subst written
      rcases Numeral.head_of_writes writes with digit | rfl
      · exact isBlank_of_isDigit digit
      · decide
  | name starts parts =>
      obtain ⟨rfl, -⟩ := List.cons.inj written
      exact isBlank_of_isNameStart starts
  | operator o symbol =>
      subst symbol
      cases o <;> (obtain ⟨rfl, -⟩ := List.cons.inj written; decide)

end Cartography.Lexeme
