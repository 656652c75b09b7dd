import Cartography.Proofs.Expression.Replay

/-!
# Reading recognises the grammar

What the readers accept is put together as a derivation, so that they accept exactly the tokens
the grammar derives. The grammar has at most one derivation for any tokens, and the expression
that is read is the one this derivation stands for.

## Implementation notes

Each reader is treated on the assumption that expressions are read well from fewer tokens; the
assumption is discharged once, for all readers together.
-/

namespace Cartography

open Expression

/-! ### Putting derivations together -/

namespace Derivation

/-- A derivation of a level counts at every lower level. -/
theorem exists_lower {least level : Nat} (lower : least ≤ level) (d : Derivation level)
    (primary : level ≤ 8) :
    ∃ e : Derivation least, e.yield = d.yield ∧ e.tree = d.tree ∧ e.endsInName = d.endsInName := by
  induction lower with
  | refl => exact ⟨d, rfl, rfl, rfl⟩
  | @step middle _ ih =>
      obtain ⟨e, sameYield, sameTree, sameEnd⟩ := ih (.climb (by omega) d) (by omega)
      refine ⟨e, ?_, ?_, ?_⟩
      · rw [sameYield, yield]
      · rw [sameTree, tree]
      · rw [sameEnd, endsInName]

/-- An operator joins a derivation that it takes on its left with one that it takes on its
right. -/
theorem exists_join {level own beyond : Nat} {o : Operator} {b : Binding}
    (binds : o.binding? = some b) (left : Derivation level) (fits : b.leftLevel ≤ level)
    (primary : level ≤ 8) (right : Derivation beyond) (beyondEq : beyond = b.rightLevel)
    (ownEq : own = b.level) :
    ∃ d : Derivation own, d.yield = left.yield ++ .operator o :: right.yield ∧
      d.tree = .call b.head [left.tree, right.tree] ∧ d.endsInName = right.endsInName := by
  rcases listed_or_power binds with ⟨groupsLeft, -, -, listed⟩ | ⟨rfl, rfl⟩
  · obtain ⟨_, head, groupsRight⟩ := b
    obtain rfl : groupsRight = false := groupsLeft
    obtain rfl := ownEq
    obtain rfl : beyond = own + 1 := beyondEq
    obtain ⟨e, sameYield, sameTree, -⟩ := exists_lower (show own ≤ level from fits) left primary
    refine ⟨.binary listed e right, ?_, ?_, ?_⟩
    · rw [yield, sameYield]
    · rw [tree, sameTree]
    · rw [endsInName]
  · obtain rfl : own = 7 := ownEq
    obtain rfl : beyond = 7 := beyondEq
    obtain ⟨e, sameYield, sameTree, -⟩ := exists_lower (show 8 ≤ level from fits) left primary
    refine ⟨.power e right, ?_, ?_, ?_⟩
    · rw [yield, sameYield]
    · rw [tree, sameTree]
    · rw [endsInName]

end Derivation

/-! ### What the readers accept -/

/-- Some tokens are those of a derivation, of a level and with an expression, followed by what is
not part of it. -/
def Accepts (level : Nat) (ts : List Located) (tree : Expression) (rest : List Located) : Prop :=
  ∃ (consumed : List Located) (d : Derivation level),
    ts = consumed ++ rest ∧ consumed.map (·.token) = d.yield ∧ d.tree = tree ∧ d.Precedes rest

/-- From fewer than `count` tokens, expressions are only read as the grammar has them. -/
def ReadsWellBelow (stop count : Nat) : Prop :=
  ∀ ts, ts.length < count → ∀ least, least ≤ 7 → ∀ tree rest,
    plainFrom stop least ts = .ok (tree, rest) → Accepts least ts tree rest ∧ Stops least rest

variable {stop : Nat}

/-- An accepted primary. Any operator can stand behind it. -/
theorem accepts_primary {ts rest : List Located} {tree : Expression} (consumed : List Located)
    (d : Derivation 8) (split : ts = consumed ++ rest)
    (written : consumed.map (·.token) = d.yield) (same : d.tree = tree)
    (bare : d.endsInName = true → ∀ t ∈ rest.head?, t.token ≠ .opening) :
    Accepts 8 ts tree rest := by
  refine ⟨consumed, d, split, written, same, ?_, bare⟩
  intro t _ o b _ binds
  rcases listed_or_power binds with ⟨left, -, low, -⟩ | ⟨-, rfl⟩
  · simp only [Binding.leftLevel, left]
    exact Nat.le_trans low (by decide)
  · exact Nat.le_refl _

/-- An accepted prefix operator. -/
theorem accepts_front {build : Expression → Expression} {o : Operator}
    (stands : o.front? = some build) {position : Nat} {others rest : List Located}
    {tree : Expression}
    (operand : Accepts 7 others tree rest) :
    Accepts 7 (⟨.operator o, position⟩ :: others) (build tree) rest := by
  obtain ⟨consumed, d, rfl, written, rfl, behind⟩ := operand
  cases o <;> simp only [Operator.front?, Option.some.injEq, reduceCtorEq] at stands <;>
    subst stands
  · refine ⟨⟨.operator .minus, position⟩ :: consumed, .negated d, rfl, ?_, ?_, behind⟩
    · rw [List.map_cons, written, Derivation.yield]
    · rw [Derivation.tree_negated]
  · refine ⟨⟨.operator .not, position⟩ :: consumed, .denied d, rfl, ?_, ?_, behind⟩
    · rw [List.map_cons, written, Derivation.yield]
    · rw [Derivation.tree]

/-- Arguments are only read as the grammar has them. -/
theorem exists_of_plainArguments {callee : String} {ts : List Located} {count : Nat}
    (below : ReadsWellBelow stop count) (shorter : ts.length < count)
    {trees : List Expression} {rest : List Located}
    (read : plainArguments stop callee ts = .ok (trees, rest)) :
    ∃ (consumed : List Located) (position : Nat) (arguments : List (Derivation 1)),
      arguments ≠ [] ∧ ts = consumed ++ ⟨.closing, position⟩ :: rest ∧
        consumed.map (·.token) = Derivation.yields arguments ∧
          Derivation.trees arguments = trees := by
  induction h : ts.length using Nat.strongRecOn generalizing ts trees with
  | ind n ih =>
      rw [plainArguments_eq, bind_eq_ok] at read
      obtain ⟨⟨first, following⟩, readFirst, read⟩ := read
      have fewer := length_lt_of_plainFrom readFirst
      obtain ⟨⟨consumed, d, rfl, written, rfl, -⟩, -⟩ :=
        below ts shorter 1 (by decide) first following readFirst
      rcases following with _ | ⟨⟨token, i⟩, others⟩
      · simp [plainFurther, refuse] at read
      · cases token with
        | comma =>
            simp only [plainFurther_comma, bind_eq_ok, Except.ok.injEq, Prod.mk.injEq] at read
            obtain ⟨⟨more, _⟩, readMore, rfl, rfl⟩ := read
            simp only [List.length_append, List.length_cons] at shorter h fewer
            obtain ⟨inside, position, arguments, filled, rfl, writtenMore, rfl⟩ :=
              ih others.length (by omega) (by omega) readMore rfl
            obtain ⟨second, further, rfl⟩ := List.exists_cons_of_ne_nil filled
            refine ⟨consumed ++ ⟨.comma, i⟩ :: inside, position, d :: second :: further, by simp,
              by simp, ?_, ?_⟩
            · rw [Derivation.yields, ← writtenMore, ← written, List.map_append, List.map_cons]
            · rw [Derivation.trees]
        | closing =>
            simp only [plainFurther, Except.ok.injEq, Prod.mk.injEq] at read
            obtain ⟨rfl, rfl⟩ := read
            exact ⟨consumed, i, [d], by simp, rfl, by rw [Derivation.yields, written],
              by rw [Derivation.trees, Derivation.trees]⟩
        | _ => simp [plainFurther, refuse] at read

/-- A name is only read as a lookup or as the callee of a call. -/
theorem accepts_name {name : String} {position count : Nat} {others : List Located}
    (below : ReadsWellBelow stop count) (fewer : others.length < count)
    {tree : Expression} {rest : List Located}
    (read : plainOperand stop (⟨.name name, position⟩ :: others) = .ok (tree, rest)) :
    Accepts 8 (⟨.name name, position⟩ :: others) tree rest := by
  by_cases bare : ∀ t ∈ others.head?, t.token ≠ .opening
  · rw [plainOperand_name stop name position bare] at read
    simp only [Except.ok.injEq, Prod.mk.injEq] at read
    obtain ⟨rfl, rfl⟩ := read
    refine accepts_primary [_] (.lookup name) rfl ?_ ?_ (fun _ => bare)
    · rw [Derivation.yield, List.map_singleton]
    · rw [Derivation.tree, Expression.lookup]
  obtain ⟨i, inside, rfl⟩ := exists_cons_of_head bare
  by_cases filled : ∀ t ∈ inside.head?, t.token ≠ .closing
  · rw [plainOperand_call stop name position i filled] at read
    simp only [bind_eq_ok, Except.ok.injEq, Prod.mk.injEq] at read
    obtain ⟨⟨arguments, _⟩, readArguments, rfl, rfl⟩ := read
    simp only [List.length_cons] at fewer
    obtain ⟨consumed, k, ds, -, rfl, written, rfl⟩ :=
      exists_of_plainArguments below (by omega) readArguments
    refine accepts_primary
      (⟨.name name, position⟩ :: ⟨.opening, i⟩ :: (consumed ++ [⟨.closing, k⟩]))
      (.call name ds) (by simp) ?_ ?_ (by simp [Derivation.endsInName])
    · rw [Derivation.yield, ← written]
      simp
    · rw [Derivation.tree]
  · obtain ⟨k, after, rfl⟩ := exists_cons_of_head filled
    simp only [plainOperand_emptyCall, Except.ok.injEq, Prod.mk.injEq] at read
    obtain ⟨rfl, rfl⟩ := read
    refine accepts_primary [_, _, _] (.call name []) rfl ?_ ?_ (by simp [Derivation.endsInName])
    · rw [Derivation.yield, Derivation.yields]
      rfl
    · rw [Derivation.tree, Derivation.trees]

/-- An opening bracket is only read with an expression and the bracket that closes it. -/
theorem accepts_group {position count : Nat} {others : List Located}
    (below : ReadsWellBelow stop count) (fewer : others.length < count)
    {tree : Expression} {rest : List Located}
    (read : plainOperand stop (⟨.opening, position⟩ :: others) = .ok (tree, rest)) :
    Accepts 8 (⟨.opening, position⟩ :: others) tree rest := by
  rw [plainOperand_group, bind_eq_ok] at read
  obtain ⟨⟨inner, following⟩, readInner, read⟩ := read
  obtain ⟨⟨consumed, d, rfl, written, rfl, -⟩, -⟩ :=
    below others fewer 1 (by decide) inner following readInner
  by_cases other : ∀ t ∈ following.head?, t.token ≠ .closing
  · rw [plainClose_refused stop _ other] at read
    cases following <;> cases read
  · obtain ⟨i, after, rfl⟩ := exists_cons_of_head other
    simp only [plainClose, Except.ok.injEq, Prod.mk.injEq] at read
    obtain ⟨rfl, rfl⟩ := read
    refine accepts_primary (⟨.opening, position⟩ :: (consumed ++ [⟨.closing, i⟩])) (.group d)
      (by simp) ?_ ?_ (by simp [Derivation.endsInName])
    · rw [Derivation.yield, ← written]
      simp
    · rw [Derivation.tree]

/-- An operand is only read as the grammar has it. -/
theorem accepts_of_plainOperand {ts : List Located} {count : Nat}
    (below : ReadsWellBelow stop count) (bound : ts.length ≤ count)
    {tree : Expression} {rest : List Located}
    (read : plainOperand stop ts = .ok (tree, rest)) :
    ∃ level, 7 ≤ level ∧ level ≤ 8 ∧ Accepts level ts tree rest := by
  by_cases refused : ∀ t ∈ ts.head?, startsOperand t.token = false
  · rw [plainOperand_refused stop refused] at read
    cases ts <;> simp [refuse] at read
  rcases ts with _ | ⟨⟨token, position⟩, others⟩
  · simp at refused
  have fewer : others.length < count := by
    simp only [List.length_cons] at bound
    omega
  cases token with
  | operator o =>
      cases stands : o.front? with
      | none => simp [startsOperand, stands] at refused
      | some build =>
          rw [plainOperand_front stop stands] at read
          simp only [bind_eq_ok, Except.ok.injEq, Prod.mk.injEq] at read
          obtain ⟨⟨operand, _⟩, readOperand, rfl, rfl⟩ := read
          have accepted := (below others fewer 7 (by decide) operand _ readOperand).1
          exact ⟨7, by decide, by decide, accepts_front stands accepted⟩
  | number n =>
      simp only [plainOperand_number, Except.ok.injEq, Prod.mk.injEq] at read
      obtain ⟨rfl, rfl⟩ := read
      refine ⟨8, by decide, by decide, accepts_primary [_] (.number n) rfl ?_ ?_ ?_⟩
      · rw [Derivation.yield, List.map_singleton]
      · rw [Derivation.tree]
      · simp [Derivation.endsInName]
  | text s =>
      simp only [plainOperand_text, Except.ok.injEq, Prod.mk.injEq] at read
      obtain ⟨rfl, rfl⟩ := read
      refine ⟨8, by decide, by decide, accepts_primary [_] (.text s) rfl ?_ ?_ ?_⟩
      · rw [Derivation.yield, List.map_singleton]
      · rw [Derivation.tree]
      · simp [Derivation.endsInName]
  | name name => exact ⟨8, by decide, by decide, accepts_name below fewer read⟩
  | opening => exact ⟨8, by decide, by decide, accepts_group below fewer read⟩
  | closing => simp [startsOperand] at refused
  | comma => simp [startsOperand] at refused

/-- What extends a left-hand side is only read as the grammar has it. -/
theorem exists_of_plainExtend {count least level : Nat} (below : ReadsWellBelow stop count)
    (low : least ≤ 7) {ts : List Located} (bound : ts.length ≤ count) (left : Derivation level)
    (reached : least ≤ level) (primary : level ≤ 8) (behind : left.Precedes ts)
    {tree : Expression} {rest : List Located}
    (read : plainExtend stop least left.tree ts = .ok (tree, rest)) :
    ∃ (consumed : List Located) (d : Derivation least), ts = consumed ++ rest ∧
      d.yield = left.yield ++ consumed.map (·.token) ∧ d.tree = tree ∧ d.Precedes rest ∧
        Stops least rest := by
  induction h : ts.length using Nat.strongRecOn generalizing level ts with
  | ind n ih =>
      rcases stops_or_operator least ts with stops | ⟨o, b, position, others, rfl, binds, tight⟩
      · rw [plainExtend_of_stops stop _ stops] at read
        simp only [Except.ok.injEq, Prod.mk.injEq] at read
        obtain ⟨rfl, rfl⟩ := read
        obtain ⟨d, sameYield, sameTree, sameEnd⟩ := Derivation.exists_lower reached left primary
        refine ⟨[], d, rfl, by simpa using sameYield, sameTree, ?_, stops⟩
        exact Derivation.precedes_of_stops low (Nat.le_succ _) stops (sameEnd ▸ behind.2)
      · rw [plainExtend_operator stop _ binds tight, bind_eq_ok] at read
        obtain ⟨⟨right, following⟩, readRight, read⟩ := read
        simp only [List.length_cons] at bound h
        have rightLow : b.rightLevel ≤ 7 := b.rightLevel_le_of_binds binds
        obtain ⟨⟨consumed, e, rfl, written, rfl, behindRight⟩, stops⟩ :=
          below others (by omega) b.rightLevel rightLow right following readRight
        have fits : b.leftLevel ≤ level := behind.1 _ rfl o b rfl binds
        obtain ⟨joined, joinedYield, joinedTree, joinedEnd⟩ :=
          Derivation.exists_join binds left fits primary e rfl rfl
        have behindJoined : joined.Precedes following :=
          Derivation.precedes_of_stops rightLow b.rightLevel_le stops (joinedEnd ▸ behindRight.2)
        have fewer := length_lt_of_plainFrom readRight
        rw [← joinedTree] at read
        obtain ⟨more, d, rfl, sameYield, sameTree, behindRest, stopsRest⟩ :=
          ih following.length (by omega) (by omega) joined tight
            (Nat.le_trans (Derivation.level_le_of_leftLevel fits) primary) behindJoined read rfl
        refine ⟨⟨.operator o, position⟩ :: (consumed ++ more), d, by simp, ?_, sameTree,
          behindRest, stopsRest⟩
        rw [sameYield, joinedYield, ← written]
        simp

/-- Expressions are only read as the grammar has them. -/
theorem readsWellBelow (stop count : Nat) : ReadsWellBelow stop count := by
  induction count with
  | zero => exact fun ts lt => absurd lt (Nat.not_lt_zero _)
  | succ count ih =>
      intro ts lt least low tree rest read
      rw [plainFrom_eq, bind_eq_ok] at read
      obtain ⟨⟨left, following⟩, readLeft, read⟩ := read
      have fewer := length_lt_of_plainOperand readLeft
      obtain ⟨level, high, primary, consumed, d, rfl, written, rfl, behind⟩ :=
        accepts_of_plainOperand ih (Nat.le_of_lt_succ lt) readLeft
      obtain ⟨more, e, rfl, sameYield, sameTree, behindRest, stops⟩ :=
        exists_of_plainExtend ih low (by omega) d (Nat.le_trans low high) primary behind read
      refine ⟨⟨consumed ++ more, e, by simp, ?_, sameTree, behindRest⟩, stops⟩
      rw [List.map_append, written, sameYield]

end Cartography
