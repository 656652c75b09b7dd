import Cartography.Expression.Compile
import Cartography.Proofs.Expression.MaximalMunch
import Cartography.Proofs.Expression.PrintedForm
import Cartography.Proofs.Expression.QuotedText
import Cartography.Proofs.Expression.Unambiguous

/-!
# Printed formulas are compiled to their expressions

Each printed token is the longest one where it stands, as a space or the end follows it. So the
tokens of a printed formula are read back, and what is compiled from them is the expression of the
formula.
-/

namespace Cartography

open Expression

/-! ### Printed tokens -/

/-- A token that is printed as it is read. -/
def Token.Printable : Token → Prop
  | .number n => ∃ k : Nat, n = .integer k ∧ (Decimal.digitsOf k).length ≤ digitLimit
  | .name s => IsName s
  | _ => True

namespace Formula

theorem printable_enclosed {needed : Bool} {ts : List Token} (all : ∀ t ∈ ts, t.Printable) :
    ∀ t ∈ enclosed needed ts, t.Printable := by
  cases needed with
  | false => exact all
  | true =>
      have closed : ∀ t ∈ ts ++ [.closing], t.Printable :=
        List.forall_mem_append.mpr ⟨all, List.forall_mem_singleton.mpr trivial⟩
      exact List.forall_mem_cons.mpr ⟨trivial, closed⟩

mutual

/-- The tokens of a formula are printed as they are read. -/
theorem printable_tokens (f : Formula) : ∀ t ∈ f.tokens, t.Printable := by
  match f with
  | integer n short =>
      rw [tokens]
      exact List.forall_mem_singleton.mpr ⟨n, rfl, short⟩
  | text s =>
      rw [tokens]
      exact List.forall_mem_singleton.mpr trivial
  | lookup name named =>
      rw [tokens]
      exact List.forall_mem_singleton.mpr named
  | call name named arguments =>
      have closed : ∀ t ∈ argumentTokens arguments ++ [.closing], t.Printable :=
        List.forall_mem_append.mpr
          ⟨printable_argumentTokens arguments, List.forall_mem_singleton.mpr trivial⟩
      rw [tokens]
      exact List.forall_mem_cons.mpr ⟨named, List.forall_mem_cons.mpr ⟨trivial, closed⟩⟩
  | negated operand =>
      rw [tokens]
      exact List.forall_mem_cons.mpr ⟨trivial, printable_enclosed operand.printable_tokens⟩
  | denied operand =>
      rw [tokens]
      exact List.forall_mem_cons.mpr ⟨trivial, printable_enclosed operand.printable_tokens⟩
  | binary o binds left right =>
      rw [tokens]
      refine List.forall_mem_append.mpr ⟨printable_enclosed left.printable_tokens, ?_⟩
      exact List.forall_mem_cons.mpr ⟨trivial, printable_enclosed right.printable_tokens⟩

/-- The tokens of arguments are printed as they are read. -/
theorem printable_argumentTokens (fs : List Formula) :
    ∀ t ∈ argumentTokens fs, t.Printable := by
  match fs with
  | [] =>
      rw [argumentTokens]
      exact List.forall_mem_nil _
  | [only] =>
      rw [argumentTokens]
      exact only.printable_tokens
  | first :: second :: more =>
      rw [argumentTokens]
      refine List.forall_mem_append.mpr ⟨first.printable_tokens, ?_⟩
      exact List.forall_mem_cons.mpr ⟨trivial, printable_argumentTokens (second :: more)⟩

end

end Formula

namespace Token

open Lexeme

/-- What can stand behind a printed token: nothing, or a space. -/
def Gap (more : List Char) : Prop := ∀ c ∈ more.head?, c = ' '

theorem gap_cases {more : List Char} (gap : Gap more) : more = [] ∨ ∃ rest, more = ' ' :: rest := by
  cases more with
  | nil => exact Or.inl rfl
  | cons c rest =>
      obtain rfl : c = ' ' := gap c rfl
      exact Or.inr ⟨rest, rfl⟩

/-- A printed integer is the longest token where it stands. -/
theorem longest_integer (k : Nat) {more : List Char} (gap : Gap more) :
    Longest (Decimal.digitsOf k ++ more) (Decimal.digitsOf k) (.number (.integer k)) := by
  obtain ⟨all, filled, value⟩ := Numeral.digitsOf_spec k
  have writes : Numeral.Writes (Decimal.digitsOf k) ⟨Decimal.digitsOf k, none, none⟩ := by
    simpa using Numeral.Writes.parts all .absent .absent (Or.inl filled)
  have ends : Numeral.EndsDigits more := by
    intro c hc
    rw [gap c hc]
    decide
  have unpointed : more.head? ≠ some '.' := by
    intro pointed
    cases gap '.' pointed
  have bare : Numeral.exponent? more = none := by
    rcases gap_cases gap with rfl | ⟨rest, rfl⟩ <;> rfl
  have longest := longest_numeral (Numeral.read?_of_writes writes ends unpointed bare) writes
    (List.prefix_append _ more)
  rwa [Numeral.number, value] at longest

/-- A printed text is the longest token where it stands. -/
theorem longest_text (s : String) (more : List Char) :
    Longest ((Token.quoted s).toList ++ more) (Token.quoted s).toList (.text s) := by
  have opens : isQuote '"' = true := rfl
  have longest := longest_quoted opens (writesBody_escaped opens s.toList) more
  rw [String.ofList_toList] at longest
  rw [Token.quoted, String.toList_ofList]
  exact longest

/-- A printed name is the longest token where it stands. -/
theorem longest_identifier {s : String} (named : IsName s) {more : List Char} (gap : Gap more) :
    Longest (s.toList ++ more) s.toList (.name s) := by
  obtain ⟨c, others, split, starts, parts⟩ := named
  have stopped : more.takeWhile isNamePart = [] := by
    rcases gap_cases gap with rfl | ⟨rest, rfl⟩ <;> rfl
  have longest := longest_name starts (others ++ more)
  rw [List.takeWhile_append_of_pos parts, stopped, List.append_nil, ← split,
    String.ofList_toList] at longest
  rw [split] at longest ⊢
  exact longest

/-- A printed operator is the longest token where it stands. -/
theorem longest_symbol (o : Operator) {more : List Char} (gap : Gap more) :
    Longest (o.symbol.toList ++ more) o.symbol.toList (.operator o) := by
  apply longest_operator
  rcases gap_cases gap with rfl | ⟨rest, rfl⟩ <;> cases o <;> rfl

/-- A printed token is the longest one where it stands. -/
theorem longest_printed {t : Token} (printable : t.Printable) {more : List Char} (gap : Gap more) :
    Longest (t.printed.toList ++ more) t.printed.toList t ∧ ¬ Oversized t.printed.toList := by
  cases t with
  | number n =>
      obtain ⟨k, rfl, short⟩ := printable
      have text : (Token.number (.integer k)).printed.toList = Decimal.digitsOf k := by
        show (Nat.repr k).toList = Nat.toDigits 10 k
        rw [Nat.repr, String.toList_ofList]
      rw [text]
      exact ⟨longest_integer k gap, fun large => Nat.not_lt_of_le short large.2⟩
  | text s =>
      have longest := longest_text s more
      exact ⟨longest, not_oversized longest.spells (by simp [leadOf])⟩
  | name s =>
      have longest := longest_identifier printable gap
      exact ⟨longest, not_oversized longest.spells (by simp [leadOf])⟩
  | operator o =>
      have longest := longest_symbol o gap
      exact ⟨longest, not_oversized longest.spells (by simp [leadOf])⟩
  | opening =>
      have longest := longest_punctuation (show punctuation? '(' = some .opening from rfl) more
      exact ⟨longest, not_oversized longest.spells (by simp [leadOf])⟩
  | closing =>
      have longest := longest_punctuation (show punctuation? ')' = some .closing from rfl) more
      exact ⟨longest, not_oversized longest.spells (by simp [leadOf])⟩
  | comma =>
      have longest := longest_punctuation (show punctuation? ',' = some .comma from rfl) more
      exact ⟨longest, not_oversized longest.spells (by simp [leadOf])⟩

/-- Printed tokens with a space between any two are scanned as they were printed. -/
theorem exists_scan_printed (ts : List Token) (all : ∀ t ∈ ts, t.Printable) (position : Nat) :
    ∃ items, Tokens.scan position (" ".intercalate (ts.map Token.printed)).toList = .ok items ∧
      items.map (·.token) = ts := by
  induction ts generalizing position with
  | nil =>
      exact ⟨[], Tokens.scan_nil position, rfl⟩
  | cons t ts ih =>
      obtain ⟨printable, others⟩ := List.forall_mem_cons.mp all
      cases ts with
      | nil =>
          obtain ⟨longest, small⟩ := longest_printed printable (show Gap [] by simp [Gap])
          refine ⟨[⟨t, position⟩], ?_, rfl⟩
          have scanned := Tokens.scan_longest longest small position
          rw [List.append_nil, Tokens.scan_nil] at scanned
          rw [List.map_singleton, String.intercalate_singleton]
          exact scanned
      | cons second more =>
          have gap :
              Gap (' ' :: (" ".intercalate ((second :: more).map Token.printed)).toList) := by
            simp [Gap]
          obtain ⟨longest, small⟩ := longest_printed printable gap
          obtain ⟨items, scanned, same⟩ := ih others (position + t.printed.toList.length + 1)
          refine ⟨⟨t, position⟩ :: items, ?_, by rw [List.map_cons, same]⟩
          have text : (" ".intercalate ((t :: second :: more).map Token.printed)).toList =
              t.printed.toList ++
                ' ' :: (" ".intercalate ((second :: more).map Token.printed)).toList := by
            simp [String.intercalate_cons_cons]
          rw [text, Tokens.scan_longest longest small, Tokens.scan_blank _ rfl, scanned]
          rfl

end Token

/-! ### Printed formulas -/

namespace Formula

/-- A printed formula is read as its expression. -/
theorem ofText_print (f : Formula) : ofText f.print = .ok f.tree := by
  obtain ⟨items, scanned, same⟩ := Token.exists_scan_printed f.tokens f.printable_tokens 0
  obtain ⟨d, sameYield, sameTree⟩ := f.exists_derivation rfl
  obtain ⟨e, lowerYield, lowerTree, -⟩ :=
    Derivation.exists_lower f.level_bounds.1 d f.level_bounds.2
  have written : items.map (·.token) = e.yield := by rw [same, lowerYield, sameYield]
  have read := ofTokens_of_derivation e written f.print.toList.length
  have tokens : Tokens.ofText f.print = .ok ⟨items, f.print.toList.length⟩ := by
    rw [Tokens.ofText_eq, print, scanned]
    rfl
  rw [ofText, tokens]
  exact read.trans (by rw [lowerTree, sameTree])

example : (binary .power rfl (.negated (.integer 2 (by decide)))
    (.denied (.binary .plus rfl (.text "\"") (.integer 10 (by decide))))).print =
      "( - 2 ) ^ ! ( \"\\\"\" + 10 )" := by rfl

/-- A printed formula is compiled to its expression, on every host. -/
theorem compile_print (f : Formula) {σ : Type} (host : Host σ) (stage : Stage σ) :
    ((compile (.text f.print)).run host stage).1 = .ok f.tree := by
  have read : ofValue (.text f.print) = .ok f.tree := by
    rw [ofValue, ofText_print]
    rfl
  rw [compile, read]
  rfl

end Formula

end Cartography
