import Cartography.Proofs.Expression.Grammar

/-!
# Replaying derivations

The readers accept the tokens of every derivation, whatever stands behind them that is not part
of it, and return the expression of the derivation.

## Implementation notes

Reading the tokens of a derivation brings a reader to the point where the derivation's
expression is its left-hand side. This form of the statement is the one that goes through for
operators that group to the left.
-/

namespace Cartography

open Expression

namespace Derivation

variable {level : Nat}

/-- Some tokens can stand behind a derivation without being read into it: an operator there takes
left-hand sides of the level, and a bracket there has no bare name in front. -/
def Precedes (d : Derivation level) (rest : List Located) : Prop :=
  (∀ t ∈ rest.head?, ∀ o b, t.token = .operator o → o.binding? = some b → b.leftLevel ≤ level) ∧
    (d.endsInName = true → ∀ t ∈ rest.head?, t.token ≠ .opening)

/-- An operator that takes left-hand sides of a level below 8 binds no tighter than that level. -/
theorem level_le_of_leftLevel {b : Binding} (h : b.leftLevel ≤ level) : b.level ≤ level := by
  unfold Binding.leftLevel at h
  split at h <;> omega

/-- Reading at a level stops where only looser operators can follow. -/
theorem Precedes.stops {d : Derivation level} {rest : List Located} (h : d.Precedes rest)
    {least : Nat} (looser : level < least ∨ (level = 7 ∧ least = 7)) : Stops least rest := by
  intro t ht joined hj
  cases token : t.token with
  | operator o =>
      cases binds : o.binding? with
      | none => simp [joinLevel?, token, binds] at hj
      | some b =>
          have same : b.level = joined := by simpa [joinLevel?, token, binds] using hj
          have le := h.1 t ht o b token binds
          rcases looser with lt | ⟨rfl, rfl⟩
          · have := level_le_of_leftLevel le
            omega
          · rcases listed_or_power binds with ⟨-, -, low, -⟩ | ⟨-, rfl⟩
            · omega
            · exact absurd le (by decide)
  | _ => simp [joinLevel?, token] at hj

/-- Where reading at a level stops, the tokens can stand behind a derivation of that level or of
the one below. -/
theorem precedes_of_stops {d : Derivation level} {rest : List Located} {least : Nat}
    (low : least ≤ 7) (near : least ≤ level + 1) (stops : Stops least rest)
    (bare : d.endsInName = true → ∀ t ∈ rest.head?, t.token ≠ .opening) : d.Precedes rest := by
  refine ⟨?_, bare⟩
  intro t ht o b token binds
  have lt : b.level < least := stops t ht b.level (by simp [joinLevel?, token, binds])
  rcases listed_or_power binds with ⟨left, -, -, -⟩ | ⟨-, rfl⟩
  · simp only [Binding.leftLevel, left]
    exact Nat.le_of_lt_succ (Nat.lt_of_lt_of_le lt near)
  · simp only at lt
    omega

/-- An operator can stand behind a derivation of a level that it takes on its left. -/
theorem precedes_operator (d : Derivation level) {o : Operator} {b : Binding}
    (binds : o.binding? = some b) (fits : b.leftLevel ≤ level) (position : Nat)
    (rest : List Located) : d.Precedes (⟨.operator o, position⟩ :: rest) := by
  refine ⟨?_, by simp⟩
  intro t ht o' b' same binds'
  obtain rfl : _ = t := by simpa using ht
  obtain rfl : o = o' := by simpa using same
  obtain rfl : b = b' := Option.some.inj (binds.symm.trans binds')
  exact fits

/-- Tokens that start with neither an operator nor a bracket can stand behind any derivation. -/
theorem precedes_of_plain (d : Derivation level) {rest : List Located}
    (plain : ∀ t ∈ rest.head?, (∀ o, t.token ≠ .operator o) ∧ t.token ≠ .opening) :
    d.Precedes rest :=
  ⟨fun t ht o _ token _ => absurd token ((plain t ht).1 o), fun _ t ht => (plain t ht).2⟩

theorem precedes_nil (d : Derivation level) : d.Precedes [] :=
  d.precedes_of_plain (by simp)

/-- The tokens of a derivation start as an operand does. -/
theorem yield_head {level : Nat} : (d : Derivation level) →
    ∃ t more, d.yield = t :: more ∧ startsOperand t = true
  | climb _ inner => by
      rw [yield]
      exact inner.yield_head
  | binary _ left _ => by
      obtain ⟨t, more, same, starts⟩ := left.yield_head
      exact ⟨t, _, by rw [yield, same]; rfl, starts⟩
  | negated operand => ⟨.operator .minus, operand.yield, by rw [yield], rfl⟩
  | denied operand => ⟨.operator .not, operand.yield, by rw [yield], rfl⟩
  | power base _ => by
      obtain ⟨t, more, same, starts⟩ := base.yield_head
      exact ⟨t, _, by rw [yield, same]; rfl, starts⟩
  | number n => ⟨.number n, [], by rw [yield], rfl⟩
  | text s => ⟨.text s, [], by rw [yield], rfl⟩
  | lookup name => ⟨.name name, [], by rw [yield], rfl⟩
  | call name arguments => ⟨.name name, _, by rw [yield], rfl⟩
  | group inner => ⟨.opening, _, by rw [yield], rfl⟩

/-- The tokens of arguments start as an operand does. -/
theorem yields_head (first : Derivation 1) (more : List (Derivation 1)) :
    ∃ t following, yields (first :: more) = t :: following ∧ startsOperand t = true := by
  obtain ⟨t, others, same, starts⟩ := first.yield_head
  cases more with
  | nil => exact ⟨t, others, by rw [yields, same], starts⟩
  | cons second more => exact ⟨t, _, by rw [yields, same]; rfl, starts⟩

/-- Arguments do not start with a closing bracket. -/
theorem not_closing_of_yields {first : Derivation 1} {more : List (Derivation 1)}
    {inside : List Located} (written : inside.map (·.token) = yields (first :: more))
    (rest : List Located) : ∀ t ∈ (inside ++ rest).head?, t.token ≠ .closing := by
  obtain ⟨t, following, head, starts⟩ := yields_head first more
  rw [head, List.map_eq_cons_iff] at written
  obtain ⟨found, _, rfl, rfl, -⟩ := written
  intro t ht closing
  obtain rfl : found = t := by simpa using ht
  simp [closing, startsOperand] at starts

mutual

/-- Reading the tokens of a derivation makes its expression the left-hand side. -/
theorem plainFrom_append {level : Nat} (d : Derivation level) {stop least : Nat}
    (reached : least ≤ level) {consumed rest : List Located}
    (written : consumed.map (·.token) = d.yield) (behind : d.Precedes rest) :
    plainFrom stop least (consumed ++ rest) = plainExtend stop least d.tree rest := by
  match d with
  | climb below inner =>
      exact inner.plainFrom_append (by omega) written
        ⟨fun t ht o b token binds => Nat.le_succ_of_le (behind.1 t ht o b token binds), behind.2⟩
  | @binary _ o head listed left right =>
      rw [yield, List.map_eq_append_iff] at written
      obtain ⟨before, after, rfl, writtenLeft, written⟩ := written
      obtain ⟨⟨_, position⟩, others, rfl, rfl, writtenRight⟩ := List.map_eq_cons_iff.mp written
      have binds := binding_of_listed listed
      have behindLeft : left.Precedes (⟨.operator o, position⟩ :: (others ++ rest)) :=
        left.precedes_operator binds (Nat.le_refl _) position _
      have behindRight : right.Precedes rest :=
        ⟨fun t ht o b token binds => Nat.le_succ_of_le (behind.1 t ht o b token binds), behind.2⟩
      rw [List.append_assoc, List.cons_append,
        left.plainFrom_append reached writtenLeft behindLeft,
        plainExtend_operator stop _ binds reached]
      rw [show Binding.rightLevel ⟨level, head, false⟩ = level + 1 from rfl,
        right.plainFrom_append (Nat.le_refl _) writtenRight behindRight,
        plainExtend_of_stops stop _ (behind.stops (Or.inl (Nat.lt_succ_self _))), ok_bind, tree]
  | negated operand =>
      rw [yield, List.map_eq_cons_iff] at written
      obtain ⟨⟨_, position⟩, others, rfl, rfl, writtenOperand⟩ := written
      have behindOperand : operand.Precedes rest := behind
      rw [List.cons_append, plainFrom_eq, plainOperand_front stop rfl,
        operand.plainFrom_append (Nat.le_refl _) writtenOperand behindOperand,
        plainExtend_of_stops stop _ (behind.stops (Or.inr ⟨rfl, rfl⟩)), ok_bind, ok_bind,
        tree_negated]
  | denied operand =>
      rw [yield, List.map_eq_cons_iff] at written
      obtain ⟨⟨_, position⟩, others, rfl, rfl, writtenOperand⟩ := written
      have behindOperand : operand.Precedes rest := behind
      rw [List.cons_append, plainFrom_eq, plainOperand_front stop rfl,
        operand.plainFrom_append (Nat.le_refl _) writtenOperand behindOperand,
        plainExtend_of_stops stop _ (behind.stops (Or.inr ⟨rfl, rfl⟩)), ok_bind, ok_bind, tree]
  | power base exponent =>
      rw [yield, List.map_eq_append_iff] at written
      obtain ⟨before, after, rfl, writtenBase, written⟩ := written
      obtain ⟨⟨_, position⟩, others, rfl, rfl, writtenExponent⟩ := List.map_eq_cons_iff.mp written
      have behindBase : base.Precedes (⟨.operator .power, position⟩ :: (others ++ rest)) :=
        base.precedes_operator rfl (Nat.le_refl _) position _
      have behindExponent : exponent.Precedes rest := behind
      rw [List.append_assoc, List.cons_append,
        base.plainFrom_append (by omega) writtenBase behindBase,
        plainExtend_operator stop _ (show Operator.power.binding? = some ⟨7, "^", true⟩ from rfl)
          reached]
      rw [show Binding.rightLevel ⟨7, "^", true⟩ = 7 from rfl,
        exponent.plainFrom_append (Nat.le_refl _) writtenExponent behindExponent,
        plainExtend_of_stops stop _ (behind.stops (Or.inr ⟨rfl, rfl⟩)), ok_bind, tree]
  | number n =>
      rw [yield, List.map_eq_singleton_iff] at written
      obtain ⟨⟨_, position⟩, rfl, rfl⟩ := written
      rw [List.cons_append, plainFrom_eq, plainOperand_number, ok_bind, tree, List.nil_append]
  | text s =>
      rw [yield, List.map_eq_singleton_iff] at written
      obtain ⟨⟨_, position⟩, rfl, rfl⟩ := written
      rw [List.cons_append, plainFrom_eq, plainOperand_text, ok_bind, tree, List.nil_append]
  | lookup name =>
      rw [yield, List.map_eq_singleton_iff] at written
      obtain ⟨⟨_, position⟩, rfl, rfl⟩ := written
      rw [List.cons_append, List.nil_append, plainFrom_eq,
        plainOperand_name stop name position (behind.2 rfl), ok_bind, tree, Expression.lookup]
  | call name [] =>
      rw [yield, yields, List.nil_append, List.map_eq_cons_iff] at written
      obtain ⟨⟨_, i⟩, others, rfl, rfl, written⟩ := written
      rw [List.map_eq_cons_iff] at written
      obtain ⟨⟨_, j⟩, others, rfl, rfl, written⟩ := written
      rw [List.map_eq_singleton_iff] at written
      obtain ⟨⟨_, k⟩, rfl, rfl⟩ := written
      simp only [List.cons_append, List.nil_append]
      rw [plainFrom_eq, plainOperand_emptyCall, ok_bind, tree, trees]
  | call name (first :: more) =>
      rw [yield, List.map_eq_cons_iff] at written
      obtain ⟨⟨_, i⟩, others, rfl, rfl, written⟩ := written
      rw [List.map_eq_cons_iff] at written
      obtain ⟨⟨_, j⟩, others, rfl, rfl, written⟩ := written
      rw [List.map_eq_append_iff] at written
      obtain ⟨inside, bracket, rfl, writtenInside, written⟩ := written
      rw [List.map_eq_singleton_iff] at written
      obtain ⟨⟨_, k⟩, rfl, rfl⟩ := written
      have filled := not_closing_of_yields writtenInside (⟨.closing, k⟩ :: rest)
      have read : plainArguments stop name (inside ++ ⟨.closing, k⟩ :: rest) =
          .ok (trees (first :: more), rest) :=
        plainArguments_append (first :: more) (by simp) writtenInside k rest
      simp only [List.cons_append, List.append_assoc, List.nil_append]
      rw [plainFrom_eq, plainOperand_call stop name i j filled, read, ok_bind, ok_bind, tree]
  | group inner =>
      rw [yield, List.map_eq_cons_iff] at written
      obtain ⟨⟨_, i⟩, others, rfl, rfl, written⟩ := written
      rw [List.map_eq_append_iff] at written
      obtain ⟨inside, bracket, rfl, writtenInside, written⟩ := written
      rw [List.map_eq_singleton_iff] at written
      obtain ⟨⟨_, k⟩, rfl, rfl⟩ := written
      have behindInner : inner.Precedes (⟨.closing, k⟩ :: rest) :=
        inner.precedes_of_plain (by simp)
      simp only [List.cons_append, List.append_assoc, List.nil_append]
      rw [plainFrom_eq, plainOperand_group,
        inner.plainFrom_append (Nat.le_refl _) writtenInside behindInner,
        plainExtend_of_stops stop _ (by simp [stops_cons, joinLevel?]), ok_bind, plainClose,
        ok_bind, tree]

/-- Reading the tokens of arguments and of the bracket behind them gives their expressions. -/
theorem plainArguments_append (arguments : List (Derivation 1)) (filled : arguments ≠ [])
    {stop : Nat} {callee : String} {consumed : List Located}
    (written : consumed.map (·.token) = yields arguments) (position : Nat)
    (rest : List Located) :
    plainArguments stop callee (consumed ++ ⟨.closing, position⟩ :: rest) =
      .ok (trees arguments, rest) := by
  match arguments with
  | [] => exact absurd rfl filled
  | [only] =>
      have behind : only.Precedes (⟨.closing, position⟩ :: rest) :=
        only.precedes_of_plain (by simp)
      rw [plainArguments_eq, only.plainFrom_append (Nat.le_refl _) written behind,
        plainExtend_of_stops stop _ (by simp [stops_cons, joinLevel?]), ok_bind, plainFurther,
        trees, trees]
  | first :: second :: more =>
      rw [yields, List.map_eq_append_iff] at written
      obtain ⟨before, after, rfl, writtenFirst, written⟩ := written
      rw [List.map_eq_cons_iff] at written
      obtain ⟨⟨_, i⟩, others, rfl, rfl, writtenMore⟩ := written
      have behind : first.Precedes (⟨.comma, i⟩ :: (others ++ ⟨.closing, position⟩ :: rest)) :=
        first.precedes_of_plain (by simp)
      have readMore : plainArguments stop callee (others ++ ⟨.closing, position⟩ :: rest) =
          .ok (trees (second :: more), rest) :=
        plainArguments_append (second :: more) (by simp) writtenMore position rest
      rw [List.append_assoc, List.cons_append, plainArguments_eq,
        first.plainFrom_append (Nat.le_refl _) writtenFirst behind,
        plainExtend_of_stops stop _ (by simp [stops_cons, joinLevel?]), ok_bind,
        plainFurther_comma, readMore, ok_bind]
      simp only [trees]

end

end Derivation

end Cartography
