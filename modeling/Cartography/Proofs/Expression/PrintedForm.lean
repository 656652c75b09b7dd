import Cartography.Proofs.Expression.Recognition
import Cartography.Proofs.Expression.LexicalClass

/-!
# Formulas and their printed form

A formula is what an expression text says, apart from how it is laid out: literals, lookups,
calls, prefix operators and binary ones. It is printed with a space between any two tokens and
with brackets only where it would be read as another one without them.

## Implementation notes

Whether a formula needs brackets is said case by case. That this comes down to a comparison of
levels is a lemma, and the one about it that everything else goes through.
-/

namespace Cartography

open Expression

/-- A text that can be written as a name. -/
def IsName (s : String) : Prop :=
  ∃ c others, s.toList = c :: others ∧ Lexeme.isNameStart c = true ∧
    ∀ d ∈ others, Lexeme.isNamePart d = true

/-- A formula. Its integers have no more digits than are read, and its names can be written. -/
inductive Formula
  | integer (n : Nat) (short : (Decimal.digitsOf n).length ≤ digitLimit)
  | text (s : String)
  | lookup (name : String) (named : IsName name)
  | call (name : String) (named : IsName name) (arguments : List Formula)
  | negated (operand : Formula)
  | denied (operand : Formula)
  | binary (o : Operator) {b : Binding} (binds : o.binding? = some b) (left right : Formula)

/-- Where a formula stands in another one. -/
inductive Site
  | whole
  | leftOf {o : Operator} {b : Binding} (binds : o.binding? = some b)
  | rightOf {o : Operator} {b : Binding} (binds : o.binding? = some b)
  | prefixed

namespace Site

/-- Whether a formula needs brackets where it stands. -/
def brackets : Site → Formula → Bool
  | @leftOf o outer _, .binary own (b := b) _ _ _ =>
      b.level < outer.level || (own = .power && o = .power)
  | @leftOf o _ _, .negated _ | @leftOf o _ _, .denied _ => o = .power
  | @rightOf _ outer _, .binary _ (b := b) _ _ _ =>
      if outer.groupsRight then b.level < outer.level else b.level ≤ outer.level
  | prefixed, .binary own _ _ _ => own ≠ .power
  | _, _ => false

/-- The level that a place asks for. -/
def level : Site → Nat
  | whole => 1
  | @leftOf _ outer _ => outer.leftLevel
  | @rightOf _ outer _ => outer.rightLevel
  | prefixed => 7

end Site

namespace Formula

/-- Tokens in brackets, where those are needed. -/
def enclosed (needed : Bool) (ts : List Token) : List Token :=
  if needed then .opening :: (ts ++ [.closing]) else ts

mutual

/-- The tokens of a formula. -/
def tokens : Formula → List Token
  | integer n _ => [.number (.integer n)]
  | text s => [.text s]
  | lookup name _ => [.name name]
  | call name _ arguments => .name name :: .opening :: (argumentTokens arguments ++ [.closing])
  | negated operand => .operator .minus :: enclosed (Site.prefixed.brackets operand) operand.tokens
  | denied operand => .operator .not :: enclosed (Site.prefixed.brackets operand) operand.tokens
  | binary o binds left right =>
      enclosed ((Site.leftOf binds).brackets left) left.tokens ++
        .operator o :: enclosed ((Site.rightOf binds).brackets right) right.tokens

/-- The tokens of arguments, with a comma between any two. -/
def argumentTokens : List Formula → List Token
  | [] => []
  | [only] => only.tokens
  | first :: second :: more => first.tokens ++ .comma :: argumentTokens (second :: more)

end

mutual

/-- The expression of a formula. A minus sign in front of a number is part of the number. -/
def tree : Formula → Expression
  | integer n _ => .number (.integer n)
  | text s => .text s
  | lookup name _ => .call "get" [.text name]
  | call name _ arguments => .call name (trees arguments)
  | negated operand =>
      match operand.tree with
      | .number n => .number n.negate
      | other => .call "-" [other]
  | denied operand => .call "!" [operand.tree]
  | binary _ (b := b) _ left right => .call b.head [left.tree, right.tree]

/-- The expressions of arguments. -/
def trees : List Formula → List Expression
  | [] => []
  | first :: more => first.tree :: trees more

end

end Formula

/-- A text in double quotes, with a backslash in front of each double quote and backslash. -/
def Token.quoted (s : String) : String :=
  let escaped := s.toList.flatMap fun c => if c = '"' ∨ c = '\\' then ['\\', c] else [c]
  String.ofList ('"' :: (escaped ++ ['"']))

/-- How a token is printed. -/
def Token.printed : Token → String
  | .number n => n.text
  | .text s => Token.quoted s
  | .name s => s
  | .operator o => o.symbol
  | .opening => "("
  | .closing => ")"
  | .comma => ","

/-- The printed form of a formula: its tokens, with a space between any two. -/
def Formula.print (f : Formula) : String :=
  " ".intercalate (f.tokens.map Token.printed)

/-! ### Brackets by level -/

namespace Formula

/-- The level of a formula without brackets. -/
def level : Formula → Nat
  | binary _ (b := b) _ _ _ => b.level
  | negated _ | denied _ => 7
  | _ => 8

end Formula

/-- The power sign alone groups to the right, and no other operator is at its level. -/
theorem power_or_lower {o : Operator} {b : Binding} (binds : o.binding? = some b) :
    (o = .power ∧ b.level = 7 ∧ b.groupsRight = true) ∨
      (o ≠ .power ∧ 1 ≤ b.level ∧ b.level ≤ 6 ∧ b.groupsRight = false) := by
  rcases listed_or_power binds with ⟨left, high, low, -⟩ | ⟨rfl, rfl⟩
  · refine Or.inr ⟨?_, high, low, left⟩
    rintro rfl
    cases binds
    cases left
  · exact Or.inl ⟨rfl, rfl, rfl⟩

/-- Every place asks for some level, and none for more than primaries have. -/
theorem Site.level_bounds (site : Site) : 1 ≤ site.level ∧ site.level ≤ 8 := by
  cases site with
  | whole => decide
  | prefixed => decide
  | leftOf binds =>
      rcases power_or_lower binds with ⟨-, same, right⟩ | ⟨-, high, low, left⟩
      · simp [level, Binding.leftLevel, same, right]
      · simp only [level, Binding.leftLevel, left, Bool.false_eq_true, if_false]
        omega
  | rightOf binds =>
      rcases power_or_lower binds with ⟨-, same, right⟩ | ⟨-, high, low, left⟩
      · simp [level, Binding.rightLevel, same, right]
      · simp only [level, Binding.rightLevel, left, Bool.false_eq_true, if_false]
        omega

theorem Formula.level_bounds (f : Formula) : 1 ≤ f.level ∧ f.level ≤ 8 := by
  cases f with
  | binary o binds left right =>
      have bounds := power_or_lower binds
      simp only [level]
      omega
  | _ => simp [level]

/-- A formula needs brackets where a higher level than its own is asked for. -/
theorem Site.brackets_iff (site : Site) (f : Formula) :
    site.brackets f = true ↔ f.level < site.level := by
  have bounds := f.level_bounds
  cases site with
  | whole =>
      simp only [brackets, level, Bool.false_eq_true, false_iff]
      omega
  | prefixed =>
      cases f with
      | binary own binds left right =>
          rcases power_or_lower binds with ⟨same, top, -⟩ | ⟨other, -, low, -⟩
          · simp [brackets, level, Formula.level, same, top]
          · simp [brackets, level, Formula.level, other]
            omega
      | _ => simp [brackets, level, Formula.level]
  | @leftOf o outer binds =>
      rcases power_or_lower binds with ⟨same, top, right⟩ | ⟨other, -, low, left⟩
      · cases f with
        | binary own binds' _ _ =>
            rcases power_or_lower binds' with ⟨same', top', -⟩ | ⟨other', -, low', -⟩
            · simp [brackets, level, Formula.level, Binding.leftLevel, same, top, right, same',
                top']
            · simp [brackets, level, Formula.level, Binding.leftLevel, same, top, right, other']
              omega
        | _ => simp [brackets, level, Formula.level, Binding.leftLevel, same, top, right]
      · cases f with
        | binary own binds' _ _ =>
            simp [brackets, level, Formula.level, Binding.leftLevel, other, left]
        | _ =>
            simp [brackets, level, Formula.level, Binding.leftLevel, other, left]
            omega
  | @rightOf o outer binds =>
      rcases power_or_lower binds with ⟨same, top, right⟩ | ⟨other, -, low, left⟩
      · cases f with
        | binary own binds' _ _ => simp [brackets, level, Formula.level, Binding.rightLevel, right]
        | _ => simp [brackets, level, Formula.level, Binding.rightLevel, top, right]
      · cases f with
        | binary own binds' _ _ =>
            simp only [brackets, level, Formula.level, Binding.rightLevel, left, Bool.false_eq_true,
              if_false, decide_eq_true_eq]
            omega
        | _ =>
            simp [brackets, level, Formula.level, Binding.rightLevel, left]
            omega

/-! ### Derivations of printed formulas -/

namespace Formula

theorem tree_negated (operand : Formula) : (negated operand).tree = operand.tree.negation := by
  rw [tree]
  cases operand.tree <;> rfl

/-- A formula in its brackets is derived at the level that its place asks for. -/
theorem exists_enclosed (site : Site) {f : Formula} {d : Derivation f.level}
    (sameYield : d.yield = f.tokens) (sameTree : d.tree = f.tree) :
    ∃ e : Derivation site.level,
      e.yield = enclosed (site.brackets f) f.tokens ∧ e.tree = f.tree := by
  have bounds := f.level_bounds
  cases needed : site.brackets f with
  | true =>
      obtain ⟨inner, innerYield, innerTree, -⟩ := Derivation.exists_lower bounds.1 d bounds.2
      obtain ⟨e, outerYield, outerTree, -⟩ :=
        Derivation.exists_lower site.level_bounds.2 (.group inner) (Nat.le_refl _)
      refine ⟨e, ?_, ?_⟩
      · rw [outerYield, Derivation.yield, innerYield, sameYield]
        rfl
      · rw [outerTree, Derivation.tree, innerTree, sameTree]
  | false =>
      have fits : site.level ≤ f.level := by
        apply Nat.not_lt.mp
        intro lower
        rw [(site.brackets_iff f).mpr lower] at needed
        cases needed
      obtain ⟨e, lowerYield, lowerTree, -⟩ := Derivation.exists_lower fits d bounds.2
      exact ⟨e, lowerYield.trans sameYield, lowerTree.trans sameTree⟩

mutual

/-- The tokens of a formula have a derivation with the formula's expression. -/
theorem exists_derivation (f : Formula) {own : Nat} (ownEq : own = f.level) :
    ∃ d : Derivation own, d.yield = f.tokens ∧ d.tree = f.tree := by
  match f with
  | integer n _ =>
      obtain rfl : own = 8 := ownEq
      exact ⟨.number (.integer n), by rw [Derivation.yield, tokens], by rw [Derivation.tree, tree]⟩
  | text s =>
      obtain rfl : own = 8 := ownEq
      exact ⟨.text s, by rw [Derivation.yield, tokens], by rw [Derivation.tree, tree]⟩
  | lookup name _ =>
      obtain rfl : own = 8 := ownEq
      exact ⟨.lookup name, by rw [Derivation.yield, tokens], by rw [Derivation.tree, tree]⟩
  | call name _ arguments =>
      obtain rfl : own = 8 := ownEq
      obtain ⟨ds, sameYield, sameTree⟩ := exists_arguments arguments
      refine ⟨.call name ds, ?_, ?_⟩
      · rw [Derivation.yield, tokens, sameYield]
      · rw [Derivation.tree, tree, sameTree]
  | negated operand =>
      obtain rfl : own = 7 := ownEq
      obtain ⟨d, sameYield, sameTree⟩ := operand.exists_derivation rfl
      obtain ⟨e, yieldOperand, treeOperand⟩ : ∃ e : Derivation 7,
          e.yield = enclosed (Site.prefixed.brackets operand) operand.tokens ∧
            e.tree = operand.tree := exists_enclosed .prefixed sameYield sameTree
      refine ⟨.negated e, ?_, ?_⟩
      · rw [Derivation.yield, tokens, ← yieldOperand]
      · rw [Derivation.tree_negated, tree_negated, treeOperand]
  | denied operand =>
      obtain rfl : own = 7 := ownEq
      obtain ⟨d, sameYield, sameTree⟩ := operand.exists_derivation rfl
      obtain ⟨e, yieldOperand, treeOperand⟩ : ∃ e : Derivation 7,
          e.yield = enclosed (Site.prefixed.brackets operand) operand.tokens ∧
            e.tree = operand.tree := exists_enclosed .prefixed sameYield sameTree
      refine ⟨.denied e, ?_, ?_⟩
      · rw [Derivation.yield, tokens, ← yieldOperand]
      · rw [Derivation.tree, tree, ← treeOperand]
  | binary o binds left right =>
      obtain ⟨dl, sameYieldL, sameTreeL⟩ := left.exists_derivation rfl
      obtain ⟨dr, sameYieldR, sameTreeR⟩ := right.exists_derivation rfl
      obtain ⟨el, yieldLeft, treeLeft⟩ := exists_enclosed (.leftOf binds) sameYieldL sameTreeL
      obtain ⟨er, yieldRight, treeRight⟩ := exists_enclosed (.rightOf binds) sameYieldR sameTreeR
      obtain ⟨d, joinedYield, joinedTree, -⟩ :=
        Derivation.exists_join binds el (Nat.le_refl _) (Site.leftOf binds).level_bounds.2 er rfl
          ownEq
      refine ⟨d, ?_, ?_⟩
      · rw [joinedYield, tokens, yieldLeft, yieldRight]
      · rw [joinedTree, tree, treeLeft, treeRight]

/-- The tokens of arguments have derivations with their expressions. -/
theorem exists_arguments (fs : List Formula) :
    ∃ ds : List (Derivation 1), Derivation.yields ds = argumentTokens fs ∧
      Derivation.trees ds = trees fs := by
  match fs with
  | [] =>
      exact ⟨[], by rw [Derivation.yields, argumentTokens], by rw [Derivation.trees, trees]⟩
  | [only] =>
      obtain ⟨d, sameYield, sameTree⟩ := only.exists_derivation rfl
      obtain ⟨e, lowerYield, lowerTree, -⟩ :=
        Derivation.exists_lower only.level_bounds.1 d only.level_bounds.2
      refine ⟨[e], ?_, ?_⟩
      · rw [Derivation.yields, argumentTokens, lowerYield, sameYield]
      · simp only [Derivation.trees, trees, lowerTree, sameTree]
  | first :: second :: more =>
      obtain ⟨d, sameYield, sameTree⟩ := first.exists_derivation rfl
      obtain ⟨e, lowerYield, lowerTree, -⟩ :=
        Derivation.exists_lower first.level_bounds.1 d first.level_bounds.2
      obtain ⟨ds, yieldMore, treeMore⟩ := exists_arguments (second :: more)
      have filled : ds ≠ [] := by
        rintro rfl
        rw [Derivation.trees, trees] at treeMore
        cases treeMore
      obtain ⟨next, others, rfl⟩ := List.exists_cons_of_ne_nil filled
      refine ⟨e :: next :: others, ?_, ?_⟩
      · rw [Derivation.yields, argumentTokens, lowerYield, sameYield, yieldMore]
      · rw [Derivation.trees, trees, lowerTree, sameTree, treeMore]

end

end Formula

end Cartography
