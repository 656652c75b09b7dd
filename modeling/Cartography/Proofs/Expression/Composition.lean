import Cartography.Proofs.Expression.Compilation
import Cartography.Proofs.Expression.RoundTrip
import Cartography.Proofs.Expression.SideBySide

/-!
# Expressions composed as texts

Texts that compile can be put into brackets, joined by operators, put behind prefix operators and
made the arguments of a call, and what the whole text compiles to is made of what they compile to.

## Implementation notes

The tokens of the parts are read in the whole text as they are alone, because each part stands in
front of a bracket or a comma. The derivations of the parts are then put together as those of
groups, so that it does not matter how the parts are built.
-/

namespace Cartography

open Expression

/-- A text is compiled to an expression, on every host. -/
def Compiles (source : String) (tree : Expression) : Prop :=
  ∀ (σ : Type) (host : Host σ) (stage : Stage σ),
    ((compile (.text source)).run host stage).1 = .ok tree

/-- A text is compiled to the expression that is read from it. -/
theorem compiles_iff {source : String} {tree : Expression} :
    Compiles source tree ↔ ofText source = .ok tree := by
  have value : ofValue (.text source) = .ok tree ↔ ofText source = .ok tree := by
    rw [ofValue_text]
    cases ofText source <;> simp [Except.mapError]
  rw [← value]
  constructor
  · intro compiled
    rw [← compiled Unit .idle .idle,
      result_compile _ _ (Value.shown_text source)]
  · intro read σ host stage
    rw [result_compile host stage (Value.shown_text source), read]

/-! ### The tokens of a whole text -/

namespace Tokens

open Lexeme

/-- A text has some tokens, wherever it stands. -/
def ScansTo (cs : List Char) (ts : List Token) : Prop :=
  ∀ position, ∃ items, scan position cs = .ok items ∧ items.map (·.token) = ts

theorem scansTo_nil : ScansTo [] [] := by
  intro position
  exact ⟨[], scan_nil position, rfl⟩

/-- A longest token comes in front of the tokens behind it. -/
theorem ScansTo.cons {w more : List Char} {token : Token} {ts : List Token}
    (behind : ScansTo more ts) (longest : Longest (w ++ more) w token) (small : ¬ Oversized w) :
    ScansTo (w ++ more) (token :: ts) := by
  intro position
  obtain ⟨items, read, rfl⟩ := behind (position + w.length)
  exact ⟨⟨token, position⟩ :: items, by rw [scan_longest longest small, read]; rfl, rfl⟩

/-- A bracket or a comma comes in front of the tokens behind it. -/
theorem ScansTo.punctuation {c : Char} {token : Token} {more : List Char} {ts : List Token}
    (behind : ScansTo more ts) (found : punctuation? c = some token) :
    ScansTo (c :: more) (token :: ts) := by
  have longest := longest_punctuation found more
  have marked : leadOf token ≠ .digit := by
    rw [leadOf_of_punctuation? found]
    decide
  exact behind.cons (w := [c]) longest (not_oversized longest.spells marked)

/-- An operator comes in front of a bracket. -/
theorem ScansTo.operator {more : List Char} {ts : List Token} (behind : ScansTo ('(' :: more) ts)
    (o : Operator) : ScansTo (o.symbol.toList ++ '(' :: more) (.operator o :: ts) := by
  have longest : Longest (o.symbol.toList ++ '(' :: more) o.symbol.toList (.operator o) := by
    apply longest_operator
    cases o <;> rfl
  exact behind.cons longest (not_oversized longest.spells (by simp [leadOf]))

/-- A name comes in front of a bracket. -/
theorem ScansTo.name {more : List Char} {ts : List Token} (behind : ScansTo ('(' :: more) ts)
    {s : String} (named : IsName s) : ScansTo (s.toList ++ '(' :: more) (.name s :: ts) := by
  obtain ⟨c, others, split, starts, parts⟩ := named
  have stopped : ('(' :: more).takeWhile isNamePart = [] := rfl
  have longest := longest_name starts (others ++ '(' :: more)
  rw [List.takeWhile_append_of_pos parts, stopped, List.append_nil, ← split,
    String.ofList_toList, ← List.cons_append, ← split] at longest
  exact behind.cons longest (not_oversized longest.spells (by simp [leadOf]))

/-- The tokens of a text come in front of those of a bracket or comma and of what is behind. -/
theorem ScansTo.append {cs : List Char} {items : List Located} (read : scan 0 cs = .ok items)
    {c : Char} {token : Token} (found : punctuation? c = some token) {more : List Char}
    {ts : List Token} (behind : ScansTo more ts) :
    ScansTo (cs ++ c :: more) (items.map (·.token) ++ token :: ts) := by
  intro position
  have ends : isBoundary c = true := by simp [isBoundary, found]
  have whole := scan_append read position ends more
  obtain ⟨following, readBehind, same⟩ := behind.punctuation found (0 + position + cs.length)
  rw [readBehind, Nat.zero_add] at whole
  refine ⟨_, whole, ?_⟩
  rw [List.map_append, same, List.map_map]
  rfl

end Tokens

/-! ### Parts and wholes -/

/-- The characters of a text are those of a phrase. -/
def Writes (source : String) (d : Derivation 1) : Prop :=
  ∃ items, Tokens.scan 0 source.toList = .ok items ∧ items.map (·.token) = d.yield

/-- A text is compiled to the expression of the phrase that it writes. -/
theorem compiles_iff_writes {source : String} {tree : Expression} :
    Compiles source tree ↔ ∃ d, Writes source d ∧ d.tree = tree := by
  rw [compiles_iff, ofText_eq_bind, Tokens.ofText_eq]
  cases read : Tokens.scan 0 source.toList with
  | error r => simp [Writes, read, Except.map]
  | ok items =>
      show ofTokens ⟨items, source.toList.length⟩ = .ok tree ↔ _
      constructor
      · intro recognised
        obtain ⟨d, written, same⟩ := exists_derivation_of_ofTokens recognised
        exact ⟨d, ⟨items, read, written.symm⟩, same⟩
      · rintro ⟨d, ⟨items', read', written⟩, rfl⟩
        obtain rfl := Except.ok.inj (read.symm.trans read')
        exact ofTokens_of_derivation d written _

/-- A text with the tokens of a derivation is compiled to the expression of that. -/
theorem compiles_of_scansTo {source : String} {tree : Expression} {level : Nat}
    (d : Derivation level) (bounds : 1 ≤ level ∧ level ≤ 8) (stands : d.tree = tree)
    (scanned : Tokens.ScansTo source.toList d.yield) : Compiles source tree := by
  obtain ⟨e, sameYield, sameTree, -⟩ := Derivation.exists_lower bounds.1 d bounds.2
  obtain ⟨items, read, written⟩ := scanned 0
  exact compiles_iff_writes.mpr
    ⟨e, ⟨items, read, written.trans sameYield.symm⟩, sameTree.trans stands⟩

/-- A text in brackets has the tokens of its phrase as a group. -/
theorem Writes.group {source : String} {d : Derivation 1} (writes : Writes source d)
    {more : List Char} {ts : List Token} (behind : Tokens.ScansTo more ts) :
    Tokens.ScansTo ('(' :: (source.toList ++ ')' :: more))
      ((Derivation.group d).yield ++ ts) := by
  obtain ⟨items, read, written⟩ := writes
  have inside := Tokens.ScansTo.append read (show Lexeme.punctuation? ')' = _ from rfl) behind
  have whole := inside.punctuation (show Lexeme.punctuation? '(' = _ from rfl)
  rw [written] at whole
  simpa [Derivation.yield] using whole

/-- A group counts at every level. -/
theorem exists_group {level : Nat} (low : level ≤ 8) (d : Derivation 1) :
    ∃ e : Derivation level, e.yield = (Derivation.group d).yield ∧ e.tree = d.tree := by
  obtain ⟨e, sameYield, sameTree, -⟩ := Derivation.exists_lower low (.group d) (Nat.le_refl 8)
  exact ⟨e, sameYield, by rw [sameTree, Derivation.tree]⟩

/-- Texts with commas between them have the tokens of arguments. -/
theorem exists_arguments {sources : List String} {trees : List Expression}
    (compiled : List.Forall₂ Compiles sources trees) :
    ∃ ds, Derivation.trees ds = trees ∧ ∀ {more : List Char} {ts : List Token},
      Tokens.ScansTo more ts →
        Tokens.ScansTo ((",".intercalate sources).toList ++ ')' :: more)
          (Derivation.yields ds ++ .closing :: ts) := by
  induction compiled with
  | nil =>
      refine ⟨[], by rw [Derivation.trees], ?_⟩
      intro more ts behind
      have closed := behind.punctuation (show Lexeme.punctuation? ')' = _ from rfl)
      simpa [Derivation.yields] using closed
  | cons first others ih =>
      obtain ⟨d, ⟨items, read, written⟩, rfl⟩ := compiles_iff_writes.mp first
      obtain ⟨ds, sameTrees, scanned⟩ := ih
      refine ⟨d :: ds, by rw [Derivation.trees, sameTrees], ?_⟩
      intro more ts behind
      cases others with
      | nil =>
          obtain rfl : ds = [] := by
            cases ds with
            | nil => rfl
            | cons next later => simp [Derivation.trees] at sameTrees
          have whole :=
            Tokens.ScansTo.append read (show Lexeme.punctuation? ')' = _ from rfl) behind
          rw [written] at whole
          simpa [Derivation.yields] using whole
      | cons second third =>
          obtain ⟨next, later, rfl⟩ : ∃ next later, ds = next :: later := by
            cases ds with
            | nil => simp [Derivation.trees] at sameTrees
            | cons next later => exact ⟨next, later, rfl⟩
          have whole := Tokens.ScansTo.append read (show Lexeme.punctuation? ',' = _ from rfl)
            (scanned behind)
          rw [written] at whole
          simpa [Derivation.yields, String.intercalate_cons_cons] using whole

/-! ### Composed texts -/

/-- A text in brackets is compiled to what the text is compiled to. -/
theorem Compiles.group {source : String} {tree : Expression} (compiled : Compiles source tree) :
    Compiles ("(" ++ source ++ ")") tree := by
  obtain ⟨d, writes, rfl⟩ := compiles_iff_writes.mp compiled
  have scanned := writes.group Tokens.scansTo_nil
  apply compiles_of_scansTo (.group d) (by decide) (by rw [Derivation.tree])
  simpa using scanned

/-- Two texts in brackets are joined by an operator. -/
theorem Compiles.join {o : Operator} {b : Binding} (binds : o.binding? = some b)
    {source₁ source₂ : String} {tree₁ tree₂ : Expression} (left : Compiles source₁ tree₁)
    (right : Compiles source₂ tree₂) :
    Compiles ("(" ++ source₁ ++ ")" ++ o.symbol ++ "(" ++ source₂ ++ ")")
      (.call b.head [tree₁, tree₂]) := by
  obtain ⟨d₁, writes₁, rfl⟩ := compiles_iff_writes.mp left
  obtain ⟨d₂, writes₂, rfl⟩ := compiles_iff_writes.mp right
  have bounds : 1 ≤ b.level ∧ b.level ≤ 8 := by
    rcases listed_or_power binds with ⟨-, low, high, -⟩ | ⟨-, rfl⟩
    · omega
    · decide
  have fits : b.leftLevel ≤ 8 := by
    rcases listed_or_power binds with ⟨groups, -, high, -⟩ | ⟨-, rfl⟩
    · simp only [Binding.leftLevel, groups]
      exact bounds.2
    · decide
  -- A group is a primary, so that it will do on either side of every operator.
  obtain ⟨e₂, yield₂, tree₂⟩ :=
    exists_group (Nat.le_succ_of_le (b.rightLevel_le_of_binds binds)) d₂
  obtain ⟨d, sameYield, sameTree, -⟩ :=
    Derivation.exists_join binds (.group d₁) fits (Nat.le_refl 8) e₂ rfl rfl
  have scanned := writes₁.group ((writes₂.group Tokens.scansTo_nil).operator o)
  apply compiles_of_scansTo d bounds (by rw [sameTree, Derivation.tree, tree₂])
  rw [sameYield, yield₂]
  simpa using scanned

/-- A text in brackets is put behind a minus sign. -/
theorem Compiles.negated {source : String} {tree : Expression} (compiled : Compiles source tree) :
    Compiles ("-(" ++ source ++ ")") tree.negation := by
  obtain ⟨d, writes, rfl⟩ := compiles_iff_writes.mp compiled
  obtain ⟨e, sameYield, sameTree⟩ := exists_group (show 7 ≤ 8 by decide) d
  have scanned := (writes.group Tokens.scansTo_nil).operator .minus
  apply compiles_of_scansTo (.negated e) (by decide) (by rw [Derivation.tree_negated, sameTree])
  rw [Derivation.yield, sameYield]
  simpa [Operator.symbol] using scanned

/-- A text in brackets is put behind an exclamation mark. -/
theorem Compiles.denied {source : String} {tree : Expression} (compiled : Compiles source tree) :
    Compiles ("!(" ++ source ++ ")") (.call "!" [tree]) := by
  obtain ⟨d, writes, rfl⟩ := compiles_iff_writes.mp compiled
  obtain ⟨e, sameYield, sameTree⟩ := exists_group (show 7 ≤ 8 by decide) d
  have scanned := (writes.group Tokens.scansTo_nil).operator .not
  apply compiles_of_scansTo (.denied e) (by decide) (by rw [Derivation.tree, sameTree])
  rw [Derivation.yield, sameYield]
  simpa [Operator.symbol] using scanned

/-- Texts are made the arguments of a call. -/
theorem Compiles.call {name : String} (named : IsName name) {sources : List String}
    {trees : List Expression} (compiled : List.Forall₂ Compiles sources trees) :
    Compiles (name ++ "(" ++ ",".intercalate sources ++ ")") (.call name trees) := by
  obtain ⟨ds, rfl, scannedArguments⟩ := exists_arguments compiled
  have inside := (scannedArguments Tokens.scansTo_nil).punctuation
    (show Lexeme.punctuation? '(' = _ from rfl)
  have scanned := inside.name named
  apply compiles_of_scansTo (.call name ds) (by decide) (by rw [Derivation.tree])
  rw [Derivation.yield]
  simpa using scanned

/-- **Compilation is compositional in the text.** Brackets around a text change nothing. Texts in
brackets are joined by a binary operator, and put behind a minus sign or an exclamation mark.
Texts with commas between them are the arguments of a call. Each time the whole is compiled to
what the parts are compiled to, put together. -/
theorem compiles_composed :
    (∀ source tree, Compiles source tree → Compiles ("(" ++ source ++ ")") tree) ∧
    (∀ (o : Operator) (b : Binding), o.binding? = some b → ∀ source₁ source₂ tree₁ tree₂,
      Compiles source₁ tree₁ → Compiles source₂ tree₂ →
        Compiles ("(" ++ source₁ ++ ")" ++ o.symbol ++ "(" ++ source₂ ++ ")")
          (.call b.head [tree₁, tree₂])) ∧
    (∀ source n, Compiles source (.number n) →
      Compiles ("-(" ++ source ++ ")") (.number n.negate)) ∧
    (∀ source tree, Compiles source tree → (∀ n, tree ≠ .number n) →
      Compiles ("-(" ++ source ++ ")") (.call "-" [tree])) ∧
    (∀ source tree, Compiles source tree →
      Compiles ("!(" ++ source ++ ")") (.call "!" [tree])) ∧
    (∀ name, IsName name → ∀ sources trees, List.Forall₂ Compiles sources trees →
      Compiles (name ++ "(" ++ ",".intercalate sources ++ ")") (.call name trees)) := by
  refine ⟨?groups, ?joins, ?negatesNumbers, ?negatesOthers, ?denies, ?calls⟩
  case groups =>
    intro source tree compiled
    exact compiled.group
  case joins =>
    intro o b binds source₁ source₂ tree₁ tree₂ left right
    exact left.join binds right
  case negatesNumbers =>
    intro source n compiled
    exact compiled.negated
  case negatesOthers =>
    intro source tree compiled other
    have same : tree.negation = .call "-" [tree] := by
      cases tree with
      | number n => exact absurd rfl (other n)
      | text s => rfl
      | call head arguments => rfl
    rw [← same]
    exact compiled.negated
  case denies =>
    intro source tree compiled
    exact compiled.denied
  case calls =>
    intro name named sources trees compiled
    exact Compiles.call named compiled

/-- A number and a lookup in brackets, joined by the power sign, behind the prefix operators and
as arguments. -/
theorem composed_number_lookup :
    Compiles "2" (.number (.integer 2)) ∧ Compiles "x" (.lookup "x") ∧
      Compiles "(x)" (.lookup "x") ∧
      Compiles "(2)^(x)" (.call "^" [.number (.integer 2), .lookup "x"]) ∧
      Compiles "-(2)" (.number (.integer (-2))) ∧
      Compiles "-(x)" (.call "-" [.lookup "x"]) ∧
      Compiles "!(x)" (.call "!" [.lookup "x"]) ∧
      Compiles "max(x,2)" (.call "max" [.lookup "x", .number (.integer 2)]) := by
  have isName (c : Char) (others : List Char) (starts : Lexeme.isNameStart c = true)
      (parts : ∀ d ∈ others, Lexeme.isNamePart d = true) :
      IsName (String.ofList (c :: others)) :=
    ⟨c, others, String.toList_ofList, starts, parts⟩
  have two : Compiles "2" (.number (.integer 2)) :=
    compiles_iff.mpr (Formula.ofText_print (.integer 2 (by decide)))
  have x : Compiles "x" (.lookup "x") :=
    compiles_iff.mpr (Formula.ofText_print (.lookup "x" (isName 'x' [] rfl (by simp))))
  obtain ⟨groups, joins, negatesNumbers, negatesOthers, denies, calls⟩ := compiles_composed
  have group := groups _ _ x
  have power := joins .power _ rfl _ _ _ _ two x
  have number := negatesNumbers _ _ two
  have other := negatesOthers _ _ x (by intro n h; cases h)
  have denied := denies _ _ x
  have call := calls "max" (isName 'm' ['a', 'x'] rfl (List.all_eq_true.mp (by decide)))
    ["x", "2"] _ (.cons x (.cons two .nil))
  -- The texts are put together by computing.
  rw [show "(" ++ "x" ++ ")" = "(x)" by decide] at group
  rw [show "(" ++ "2" ++ ")" ++ Operator.power.symbol ++ "(" ++ "x" ++ ")" = "(2)^(x)"
    by decide] at power
  rw [show "-(" ++ "2" ++ ")" = "-(2)" by decide] at number
  rw [show "-(" ++ "x" ++ ")" = "-(x)" by decide] at other
  rw [show "!(" ++ "x" ++ ")" = "!(x)" by decide] at denied
  rw [show "max" ++ "(" ++ ",".intercalate ["x", "2"] ++ ")" = "max(x,2)" by decide] at call
  exact ⟨two, x, group, power, number, other, denied, call⟩

end Cartography
