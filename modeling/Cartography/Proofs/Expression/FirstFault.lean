import Cartography.Proofs.Expression.Unambiguous

/-!
# The place of a fault

Tokens that are no expression are turned down at the first of them that no expression can go on
with: those in front of it can be completed, and whatever stands behind it no longer matters.

## Implementation notes

For each reader one statement says both: what phrase the tokens in front can be completed to, and
that the reader fails on all tokens with the same front and the same token behind it.
-/

namespace Cartography

open Expression

/-- Where the first of some tokens stands, or the text ends. -/
def placeOf (stop : Nat) : List Located → Nat
  | [] => stop
  | t :: _ => t.position

/-- A reader turns some tokens down, and does so at the first of them that does not fit: those in
front of it begin a phrase, and the reader fails whatever stands behind it. -/
def TurnsDown {α : Type} (read : Nat → List Located → Except Rejection α)
    (Phrase : List Token → Prop) (stop : Nat) (ts : List Located) (r : Rejection) : Prop :=
  ∃ (before after : List Located) (fault : Fault), ts = before ++ after ∧
    r = .faulty fault (placeOf stop after) ∧
    (∃ more, Phrase (before.map (·.token) ++ more)) ∧
    ∀ t others, after = t :: others → ∀ stop' others',
      ∃ r', read stop' (before ++ t :: others') = .error r'

namespace TurnsDown

variable {α β : Type} {read : Nat → List Located → Except Rejection α}
  {outer : Nat → List Located → Except Rejection β} {Phrase Whole : List Token → Prop}
  {stop : Nat} {ts : List Located} {r : Rejection}

/-- What a reader turns down behind some tokens is turned down by a reader that goes on with it
from there. -/
theorem behind (front : List Located) (h : TurnsDown read Phrase stop ts r)
    (completed : ∀ w, Phrase w → ∃ more, Whole (front.map (·.token) ++ w ++ more))
    (fails : ∀ stop' ts' r', ts'.head? = ts.head? → read stop' ts' = .error r' →
      ∃ r'', outer stop' (front ++ ts') = .error r'') :
    TurnsDown outer Whole stop (front ++ ts) r := by
  obtain ⟨before, after, fault, rfl, rfl, ⟨more, phrase⟩, stuck⟩ := h
  obtain ⟨further, whole⟩ := completed _ phrase
  refine ⟨front ++ before, after, fault, by simp, rfl, ⟨more ++ further, ?_⟩, ?_⟩
  · simpa using whole
  · rintro t others rfl stop' others'
    obtain ⟨r', failed⟩ := stuck t others rfl stop' others'
    have same : (before ++ t :: others').head? = (before ++ t :: others).head? := by
      cases before <;> rfl
    rw [List.append_assoc]
    exact fails stop' _ r' same failed

/-- A reader that refuses the first of some tokens turns them down there. -/
theorem of_refuse (front : List Located) {γ : Type} {fault : Option Token → Fault}
    (refused : (refuse stop fault ts : Except Rejection γ) = .error r)
    (completed : ∃ more, Whole (front.map (·.token) ++ more))
    (fails : ∀ t others, ts = t :: others → ∀ stop' others',
      ∃ r', outer stop' (front ++ t :: others') = .error r') :
    TurnsDown outer Whole stop (front ++ ts) r := by
  cases ts with
  | nil =>
      simp only [refuse, Except.error.injEq] at refused
      exact ⟨front, [], _, rfl, refused.symm, completed, fails⟩
  | cons t others =>
      simp only [refuse, Except.error.injEq] at refused
      exact ⟨front, t :: others, _, rfl, refused.symm, completed, fails⟩

end TurnsDown

/-- Some tokens are a phrase of a level. -/
abbrev IsPhrase (level : Nat) (w : List Token) : Prop := ∃ d : Derivation level, d.yield = w

/-- Some tokens are the arguments of a call and the bracket behind them. -/
abbrev AreArguments (w : List Token) : Prop :=
  ∃ ds : List (Derivation 1), ds ≠ [] ∧ Derivation.yields ds ++ [.closing] = w

/-- From fewer than `count` tokens, expressions are turned down where they cease to fit. -/
def TurnsDownBelow (stop count : Nat) : Prop :=
  ∀ ts, ts.length < count → ∀ least, least ≤ 7 → ∀ r, plainFrom stop least ts = .error r →
    TurnsDown (fun stop' ts' => plainFrom stop' least ts') (IsPhrase least) stop ts r

variable {stop : Nat}

theorem Derivation.Precedes.congr {level : Nat} {d : Derivation level} {rest rest' : List Located}
    (h : d.Precedes rest) (same : rest'.head? = rest.head?) : d.Precedes rest' := by
  unfold Derivation.Precedes at h ⊢
  rwa [same]

theorem Expression.Stops.congr {least : Nat} {rest rest' : List Located} (h : Stops least rest)
    (same : rest'.head? = rest.head?) : Stops least rest' := by
  unfold Stops at h ⊢
  rwa [same]

/-- An expression that was read from some tokens is read from the same tokens wherever they are
followed by the same token. -/
theorem plainFrom_replay {level : Nat} {consumed rest : List Located} {d : Derivation level}
    (written : consumed.map (·.token) = d.yield) (behind : d.Precedes rest)
    (stops : Stops level rest) (rest' : List Located) (same : rest'.head? = rest.head?)
    (stop' : Nat) :
    plainFrom stop' level (consumed ++ rest') = .ok (d.tree, rest') := by
  rw [d.plainFrom_append (Nat.le_refl _) written (behind.congr same),
    plainExtend_of_stops stop' _ (stops.congr same)]

/-- Refusing some tokens is a failure. -/
theorem exists_refuse {α : Type} (stop : Nat) (fault : Option Token → Fault) (ts : List Located) :
    ∃ r, (refuse stop fault ts : Except Rejection α) = .error r := by
  cases ts with
  | nil => exact ⟨_, rfl⟩
  | cons t others => exact ⟨_, rfl⟩

/-- Arguments behind a comma are turned down together with the argument in front of it. -/
theorem TurnsDown.behind_comma {callee : String} {consumed others : List Located} {i : Nat}
    {d : Derivation 1} {r : Rejection} (written : consumed.map (·.token) = d.yield)
    (goesOn : ∀ rest stop', plainArguments stop' callee (consumed ++ ⟨.comma, i⟩ :: rest) =
      plainFurther stop' callee d.tree (⟨.comma, i⟩ :: rest))
    (further : TurnsDown (fun stop' ts' => plainArguments stop' callee ts') AreArguments stop
      others r) :
    TurnsDown (fun stop' ts' => plainArguments stop' callee ts') AreArguments stop
      (consumed ++ ⟨.comma, i⟩ :: others) r := by
  have split : consumed ++ ⟨.comma, i⟩ :: others = (consumed ++ [⟨.comma, i⟩]) ++ others := by simp
  rw [split]
  apply further.behind
  · rintro _ ⟨ds, filled, rfl⟩
    obtain ⟨second, more, rfl⟩ := List.exists_cons_of_ne_nil filled
    refine ⟨[], d :: second :: more, by simp, ?_⟩
    rw [Derivation.yields, ← written]
    simp
  · intro stop' ts' r' _ failed'
    refine ⟨r', ?_⟩
    rw [List.append_assoc, List.singleton_append, goesOn, plainFurther_comma, failed', error_bind]

/-- Arguments are turned down where they cease to fit. -/
theorem turnsDown_of_plainArguments {callee : String} {ts : List Located} {count : Nat}
    (below : TurnsDownBelow stop count) (shorter : ts.length < count) {r : Rejection}
    (failed : plainArguments stop callee ts = .error r) :
    TurnsDown (fun stop' ts' => plainArguments stop' callee ts') AreArguments stop ts r := by
  induction h : ts.length using Nat.strongRecOn generalizing ts with
  | ind n ih =>
      rw [plainArguments_eq, bind_eq_error] at failed
      rcases failed with failed | ⟨⟨first, following⟩, readFirst, failed⟩
      · refine (below ts shorter 1 (by decide) r failed).behind [] ?_ ?_
        · rintro _ ⟨d, rfl⟩
          exact ⟨[.closing], [d], by simp, by simp [Derivation.yields]⟩
        · intro stop' ts' r' _ failed'
          exact ⟨r', by rw [List.nil_append, plainArguments_eq, failed', error_bind]⟩
      · have fewer := length_lt_of_plainFrom readFirst
        obtain ⟨⟨consumed, d, rfl, written, rfl, behind⟩, stops⟩ :=
          readsWellBelow stop _ ts (Nat.lt_succ_self _) 1 (by decide) first following readFirst
        -- what was read first is read again in front of the same token
        have goesOn (rest' : List Located) (same : rest'.head? = following.head?) (stop' : Nat) :
            plainArguments stop' callee (consumed ++ rest') =
              plainFurther stop' callee d.tree rest' := by
          rw [plainArguments_eq, plainFrom_replay written behind stops rest' same stop', ok_bind]
        by_cases other : ∀ t ∈ following.head?, t.token ≠ .comma ∧ t.token ≠ .closing
        · rw [plainFurther_refused stop callee _ other] at failed
          refine TurnsDown.of_refuse consumed failed ?_ ?_
          · exact ⟨[.closing], [d], by simp, by rw [Derivation.yields, written]⟩
          · rintro t others rfl stop' others'
            rw [goesOn (t :: others') rfl stop',
              plainFurther_refused stop' callee _ (by simpa using other)]
            exact exists_refuse _ _ _
        · rcases following with _ | ⟨⟨token, i⟩, others⟩
          · simp at other
          · cases token with
            | comma =>
                rw [plainFurther_comma, bind_eq_error] at failed
                rcases failed with failed | ⟨_, _, failed⟩
                · simp only [List.length_append, List.length_cons] at shorter h
                  have further := ih others.length (by omega) (by omega) failed rfl
                  exact further.behind_comma written fun rest => goesOn (⟨.comma, i⟩ :: rest) rfl
                · cases failed
            | closing => cases failed
            | _ => simp at other

/-- A name alone is a phrase of every level. -/
theorem exists_name {least : Nat} (low : least ≤ 8) :
    ∃ d : Derivation least, d.yield = [.name ""] := by
  obtain ⟨d, same, -, -⟩ := Derivation.exists_lower low (.lookup "") (Nat.le_refl _)
  exact ⟨d, by rw [same, Derivation.yield]⟩

/-- A prefix operator makes an operand of the operand behind it. -/
theorem exists_front {o : Operator} {build : Expression → Expression}
    (stands : o.front? = some build) (operand : Derivation 7) :
    ∃ d : Derivation 7, d.yield = .operator o :: operand.yield := by
  cases o <;> simp only [Operator.front?, Option.some.injEq, reduceCtorEq] at stands
  · exact ⟨.negated operand, by rw [Derivation.yield]⟩
  · exact ⟨.denied operand, by rw [Derivation.yield]⟩

/-- A name with what stands behind it is turned down where it ceases to fit. -/
theorem turnsDown_of_name {name : String} {position count : Nat} {others : List Located}
    (below : TurnsDownBelow stop count) (fewer : others.length < count) {r : Rejection}
    (failed : plainOperand stop (⟨.name name, position⟩ :: others) = .error r) :
    TurnsDown plainOperand (IsPhrase 7) stop
      (⟨.name name, position⟩ :: others) r := by
  by_cases bare : ∀ t ∈ others.head?, t.token ≠ .opening
  · simp [plainOperand_name stop name position bare] at failed
  obtain ⟨i, inside, rfl⟩ := exists_cons_of_head bare
  by_cases filled : ∀ t ∈ inside.head?, t.token ≠ .closing
  · rw [plainOperand_call stop name position i filled, bind_eq_error] at failed
    rcases failed with failed | ⟨_, _, failed⟩
    · simp only [List.length_cons] at fewer
      have further := turnsDown_of_plainArguments below (by omega) failed
      refine further.behind [⟨.name name, position⟩, ⟨.opening, i⟩] ?_ ?_
      · rintro _ ⟨ds, -, rfl⟩
        refine ⟨[], .climb (by decide) (.call name ds), ?_⟩
        rw [Derivation.yield, Derivation.yield]
        simp
      · intro stop' ts' r' same failed'
        refine ⟨r', ?_⟩
        rw [List.cons_append, List.cons_append, List.nil_append,
          plainOperand_call stop' name position i (same ▸ filled), failed', error_bind]
    · simp at failed
  · obtain ⟨k, after, rfl⟩ := exists_cons_of_head filled
    simp at failed

/-- An opening bracket with what stands behind it is turned down where it ceases to fit. -/
theorem turnsDown_of_group {position count : Nat} {others : List Located}
    (below : TurnsDownBelow stop count) (fewer : others.length < count) {r : Rejection}
    (failed : plainOperand stop (⟨.opening, position⟩ :: others) = .error r) :
    TurnsDown plainOperand (IsPhrase 7) stop
      (⟨.opening, position⟩ :: others) r := by
  have closed (d : Derivation 1) : ∃ e : Derivation 7,
      e.yield = .opening :: (d.yield ++ [.closing]) :=
    ⟨.climb (by decide) (.group d), by rw [Derivation.yield, Derivation.yield]⟩
  rw [plainOperand_group, bind_eq_error] at failed
  rcases failed with failed | ⟨⟨inner, following⟩, readInner, failed⟩
  · refine (below others fewer 1 (by decide) r failed).behind [⟨.opening, position⟩] ?_ ?_
    · rintro _ ⟨d, rfl⟩
      obtain ⟨e, same⟩ := closed d
      exact ⟨[.closing], e, by simp [same]⟩
    · intro stop' ts' r' _ failed'
      exact ⟨r', by rw [List.singleton_append, plainOperand_group, failed', error_bind]⟩
  · obtain ⟨⟨consumed, d, rfl, written, rfl, behind⟩, stops⟩ :=
      readsWellBelow stop count others fewer 1 (by decide) inner following readInner
    by_cases other : ∀ t ∈ following.head?, t.token ≠ .closing
    · rw [plainClose_refused stop _ other] at failed
      refine TurnsDown.of_refuse (⟨.opening, position⟩ :: consumed) failed ?_ ?_
      · obtain ⟨e, same⟩ := closed d
        exact ⟨[.closing], e, by simp [same, written]⟩
      · rintro t others rfl stop' others'
        have again : plainFrom stop' 1 (consumed ++ t :: others') = .ok (d.tree, t :: others') :=
          plainFrom_replay written behind stops (t :: others') rfl stop'
        rw [List.cons_append, plainOperand_group, again, ok_bind,
          plainClose_refused stop' _ (by simpa using other)]
        exact exists_refuse _ _ _
    · obtain ⟨i, after, rfl⟩ := exists_cons_of_head other
      simp [plainClose] at failed

/-- An operand is turned down where it ceases to fit. -/
theorem turnsDown_of_plainOperand {ts : List Located} {count : Nat}
    (below : TurnsDownBelow stop count) (bound : ts.length ≤ count) {r : Rejection}
    (failed : plainOperand stop ts = .error r) :
    TurnsDown plainOperand (IsPhrase 7) stop ts r := by
  by_cases refused : ∀ t ∈ ts.head?, startsOperand t.token = false
  · rw [plainOperand_refused stop refused] at failed
    refine TurnsDown.of_refuse [] failed ?_ ?_
    · exact ⟨[.name ""], exists_name (by decide)⟩
    · rintro t others rfl stop' others'
      rw [List.nil_append, plainOperand_refused stop' (by simpa using refused)]
      exact exists_refuse _ _ _
  rcases ts with _ | ⟨⟨token, position⟩, others⟩
  · simp at refused
  have fewer : others.length < count := by
    simp only [List.length_cons] at bound
    omega
  cases token with
  | operator o =>
      cases stands : o.front? with
      | none => simp [startsOperand, stands] at refused
      | some build =>
          rw [plainOperand_front stop stands, bind_eq_error] at failed
          rcases failed with failed | ⟨_, _, failed⟩
          · have further := below others fewer 7 (by decide) r failed
            refine further.behind [⟨.operator o, position⟩] ?_ ?_
            · rintro _ ⟨d, rfl⟩
              obtain ⟨e, same⟩ := exists_front stands d
              exact ⟨[], e, by simp [same]⟩
            · intro stop' ts' r' _ failed'
              exact ⟨r', by
                rw [List.singleton_append, plainOperand_front stop' stands, failed', error_bind]⟩
          · simp at failed
  | number n => simp at failed
  | text s => simp at failed
  | name name => exact turnsDown_of_name below fewer failed
  | opening => exact turnsDown_of_group below fewer failed
  | closing => simp [startsOperand] at refused
  | comma => simp [startsOperand] at refused

/-- What extends a left-hand side is turned down where it ceases to fit. -/
theorem turnsDown_of_plainExtend {count least level : Nat} (below : TurnsDownBelow stop count)
    {ts : List Located} (bound : ts.length ≤ count) (left : Derivation level)
    (primary : level ≤ 8) (behind : left.Precedes ts) {r : Rejection}
    (failed : plainExtend stop least left.tree ts = .error r) :
    TurnsDown (fun stop' ts' => plainExtend stop' least left.tree ts')
      (fun w => ∃ d : Derivation least, d.yield = left.yield ++ w) stop ts r := by
  induction h : ts.length using Nat.strongRecOn generalizing level ts with
  | ind n ih =>
      rcases stops_or_operator least ts with stops | ⟨o, b, position, others, rfl, binds, tight⟩
      · simp [plainExtend_of_stops stop _ stops] at failed
      have fits : b.leftLevel ≤ level := behind.1 _ rfl o b rfl binds
      have ownLow : b.level ≤ 8 := Nat.le_trans (Derivation.level_le_of_leftLevel fits) primary
      have rightLow : b.rightLevel ≤ 7 := b.rightLevel_le_of_binds binds
      simp only [List.length_cons] at bound h
      rw [plainExtend_operator stop _ binds tight, bind_eq_error] at failed
      rcases failed with failed | ⟨⟨right, following⟩, readRight, failed⟩
      · have further := below others (by omega) b.rightLevel rightLow r failed
        refine further.behind [⟨.operator o, position⟩] ?_ ?_
        · rintro _ ⟨e, rfl⟩
          obtain ⟨joined, joinedYield, -, -⟩ :=
            Derivation.exists_join binds left fits primary e rfl rfl
          obtain ⟨d, sameYield, -, -⟩ := Derivation.exists_lower tight joined ownLow
          exact ⟨[], d, by simp [sameYield, joinedYield]⟩
        · intro stop' ts' r' _ failed'
          exact ⟨r', by
            rw [List.singleton_append, plainExtend_operator stop' _ binds tight, failed',
              error_bind]⟩
      · obtain ⟨⟨consumed, e, rfl, written, rfl, behindRight⟩, stops⟩ :=
          readsWellBelow stop count others (by omega) b.rightLevel rightLow right following
            readRight
        obtain ⟨joined, joinedYield, joinedTree, joinedEnd⟩ :=
          Derivation.exists_join binds left fits primary e rfl rfl
        have behindJoined : joined.Precedes following :=
          Derivation.precedes_of_stops rightLow b.rightLevel_le stops (joinedEnd ▸ behindRight.2)
        rw [← joinedTree] at failed
        simp only [List.length_append] at bound h
        have further := ih following.length (by omega) (by omega) joined ownLow behindJoined
          failed rfl
        refine further.behind (⟨.operator o, position⟩ :: consumed) ?_ ?_
        · rintro w ⟨d, same⟩
          exact ⟨[], d, by simp [same, joinedYield, written]⟩
        · intro stop' ts' r' same failed'
          refine ⟨r', ?_⟩
          rw [List.cons_append, plainExtend_operator stop' _ binds tight,
            plainFrom_replay written behindRight stops ts' same stop', ok_bind, ← joinedTree,
            failed']

/-- Expressions are turned down where they cease to fit. -/
theorem turnsDownBelow (stop count : Nat) : TurnsDownBelow stop count := by
  induction count with
  | zero => exact fun ts lt => absurd lt (Nat.not_lt_zero _)
  | succ count ih =>
      intro ts lt least low r failed
      rw [plainFrom_eq, bind_eq_error] at failed
      rcases failed with failed | ⟨⟨left, following⟩, readLeft, failed⟩
      · refine (turnsDown_of_plainOperand ih (Nat.le_of_lt_succ lt) failed).behind [] ?_ ?_
        · rintro _ ⟨d, rfl⟩
          obtain ⟨e, same, -, -⟩ := Derivation.exists_lower low d (by decide)
          exact ⟨[], e, by simp [same]⟩
        · intro stop' ts' r' _ failed'
          exact ⟨r', by rw [List.nil_append, plainFrom_eq, failed', error_bind]⟩
      · have fewer := length_lt_of_plainOperand readLeft
        obtain ⟨level, high, primary, consumed, d, rfl, written, rfl, behind⟩ :=
          accepts_of_plainOperand (readsWellBelow stop count) (Nat.le_of_lt_succ lt) readLeft
        have further := turnsDown_of_plainExtend ih (by omega) d primary behind failed
        refine further.behind consumed ?_ ?_
        · rintro w ⟨e, same⟩
          exact ⟨[], e, by simp [same, written]⟩
        · intro stop' ts' r' same failed'
          exact ⟨r', by
            rw [d.plainFrom_append (Nat.le_trans low high) written (behind.congr same), failed']⟩

namespace Expression

/-- What is read in front of further tokens is an expression by itself, and is read again in
front of the same token. -/
theorem exists_front_of_plainFrom {ts rest : List Located} {tree : Expression}
    (read : plainFrom stop 1 ts = .ok (tree, rest)) :
    ∃ before : List Located, ts = before ++ rest ∧
      (∀ stop', ofTokens ⟨before, stop'⟩ = .ok tree) ∧
      ∀ rest', rest'.head? = rest.head? → ∀ stop',
        plainFrom stop' 1 (before ++ rest') = .ok (tree, rest') := by
  obtain ⟨⟨before, d, rfl, written, rfl, behind⟩, stops⟩ :=
    readsWellBelow stop _ ts (Nat.lt_succ_self _) 1 (by decide) tree rest read
  exact ⟨before, rfl, ofTokens_of_derivation d written, fun rest' same stop' =>
    plainFrom_replay written behind stops rest' same stop'⟩

/-- Whether tokens are an expression does not depend on where the text ends. -/
theorem ofTokens_stop {ts : List Located} {tree : Expression} {stop' : Nat}
    (read : ofTokens ⟨ts, stop'⟩ = .ok tree) (stop : Nat) : ofTokens ⟨ts, stop⟩ = .ok tree := by
  obtain ⟨d, written, rfl⟩ := exists_derivation_of_ofTokens read
  exact ofTokens_of_derivation d written.symm stop

/-- Tokens that are no expression are turned down at the first of them that makes them impossible
to complete, or at the end of the text where they are only incomplete. -/
theorem ofTokens_error_at_first_fault (tokens : Tokens) (r : Rejection)
    (failed : ofTokens tokens = .error r) :
    ∃ (fault : Fault) (before after : List Located),
      tokens.items = before ++ after ∧ r = .faulty fault (placeOf tokens.stop after) ∧
      (∃ more, ∀ stop, ∃ tree, ofTokens ⟨before ++ more, stop⟩ = .ok tree) ∧
      (∀ t others, after = t :: others →
        ∀ more stop tree, ofTokens ⟨before ++ t :: more, stop⟩ ≠ .ok tree) ∧
      (after = [] → ∀ stop tree, ofTokens ⟨before, stop⟩ ≠ .ok tree) := by
  obtain ⟨ts, stop⟩ := tokens
  have incomplete (stop' : Nat) (tree : Expression) : ofTokens ⟨ts, stop'⟩ ≠ .ok tree := by
    intro read
    rw [ofTokens_stop read stop] at failed
    cases failed
  by_cases filled : ts = []
  · subst filled
    rw [ofTokens_nil, Except.error.injEq] at failed
    obtain ⟨d, single⟩ := exists_name (show 1 ≤ 8 by decide)
    refine ⟨.emptyExpression, [], [], rfl, failed.symm, ?_, by simp, fun _ => incomplete⟩
    exact ⟨[⟨.name "", 0⟩], fun stop' =>
      ⟨d.tree, ofTokens_of_derivation d (by rw [single]; rfl) stop'⟩⟩
  rw [ofTokens_eq stop filled, bind_eq_error] at failed
  rcases failed with failed | ⟨⟨tree, rest⟩, read, failed⟩
  · obtain ⟨before, after, fault, rfl, rfl, ⟨more, d, same⟩, stuck⟩ :=
      turnsDownBelow stop _ ts (Nat.lt_succ_self _) 1 (by decide) r failed
    refine ⟨fault, before, after, rfl, rfl,
      ⟨Derivation.placed more, fun stop' => ⟨d.tree, ?_⟩⟩, ?_, ?_⟩
    · exact ofTokens_of_derivation d (by simp [same]) stop'
    · rintro t others rfl more stop' tree read
      obtain ⟨r', failed'⟩ := stuck t others rfl stop' more
      have failedFirst : plainFrom stop' 1 (before ++ t :: more) = .error r' := failed'
      rw [ofTokens_eq stop' (by simp), failedFirst, error_bind] at read
      cases read
    · rintro rfl
      simpa using incomplete
  · -- an expression was read, and stands in front of further tokens
    obtain ⟨before, rfl, whole, again⟩ := exists_front_of_plainFrom read
    cases rest with
    | nil => simp at failed
    | cons found others =>
        simp only [Except.error.injEq] at failed
        refine ⟨trailing found.token, before, found :: others, rfl, failed.symm,
          ⟨[], fun stop' => ⟨tree, by simpa using whole stop'⟩⟩, ?_, by simp⟩
        rintro t others' same more stop' tree' read'
        obtain ⟨rfl, rfl⟩ : found = t ∧ others = others' := by simpa using same
        rw [ofTokens_eq stop' (by simp), again (found :: more) rfl stop', ok_bind] at read'
        cases read'

/-- Two expressions side by side are turned down at the second. -/
theorem sideBySide_error_at_second :
    ofTokens ⟨[⟨.name "a", 0⟩, ⟨.name "b", 2⟩], 3⟩ =
        .error (.faulty (.unexpectedToken (.name "b")) 2) ∧
      ∃ (fault : Fault) (before after : List Located),
        [⟨.name "a", 0⟩, ⟨.name "b", 2⟩] = before ++ after ∧
        Rejection.faulty (.unexpectedToken (.name "b")) 2 = .faulty fault (placeOf 3 after) ∧
        (∃ more, ∀ stop, ∃ tree, ofTokens ⟨before ++ more, stop⟩ = .ok tree) ∧
        (∀ t others, after = t :: others →
          ∀ more stop tree, ofTokens ⟨before ++ t :: more, stop⟩ ≠ .ok tree) ∧
        (after = [] → ∀ stop tree, ofTokens ⟨before, stop⟩ ≠ .ok tree) := by
  have failed : ofTokens ⟨[⟨.name "a", 0⟩, ⟨.name "b", 2⟩], 3⟩ =
      .error (.faulty (.unexpectedToken (.name "b")) 2) := by
    rw [ofTokens_eq 3 (by simp), plainFrom_eq, plainOperand_name 3 "a" 0 (by simp), ok_bind,
      plainExtend_of_stops 3 _ (by simp [stops_cons, joinLevel?])]
    rfl
  exact ⟨failed, ofTokens_error_at_first_fault _ _ failed⟩

end Expression

end Cartography
