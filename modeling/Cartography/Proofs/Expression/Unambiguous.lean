import Cartography.Proofs.Expression.Recognition

/-!
# The grammar is unambiguous

Any tokens have at most one derivation at a level. Where a phrase ends is settled by reading:
two phrases at the head of the same tokens are read alike, so they end at the same place.
-/

namespace Cartography.Derivation

open Expression

/-- Tokens without places of their own. -/
def placed (ts : List Token) : List Located := ts.map fun t => ⟨t, 0⟩

@[simp] theorem placed_append (ts us : List Token) : placed (ts ++ us) = placed ts ++ placed us :=
  List.map_append

@[simp] theorem placed_cons (t : Token) (ts : List Token) :
    placed (t :: ts) = ⟨t, 0⟩ :: placed ts :=
  rfl

@[simp] theorem placed_nil : placed [] = [] := rfl

@[simp] theorem tokens_placed (ts : List Token) : (placed ts).map (·.token) = ts := by
  simp [placed, Function.comp_def]

theorem placed_injective {ts us : List Token} (h : placed ts = placed us) : ts = us := by
  have := congrArg (List.map (·.token)) h
  simpa using this

/-! ### Where a phrase ends -/

/-- A derivation ends where some tokens start: they neither go on with it nor change its last
token. -/
def EndsAt {level : Nat} (d : Derivation level) (rest : List Token) : Prop :=
  d.Precedes (placed rest) ∧ Stops level (placed rest)

theorem endsAt_nil {level : Nat} (d : Derivation level) : d.EndsAt [] :=
  ⟨d.precedes_nil, stops_nil _⟩

theorem endsAt_comma (d : Derivation 1) (rest : List Token) : d.EndsAt (.comma :: rest) :=
  ⟨d.precedes_of_plain (by simp), by simp [stops_cons, joinLevel?]⟩

/-- Every derivation ends at an operator of a lower level. -/
theorem endsAt_listed {level own : Nat} (d : Derivation level) {o : Operator} {head : String}
    (listed : (o, head) ∈ leftOperators own) (lower : own < level) (rest : List Token) :
    d.EndsAt (.operator o :: rest) := by
  have binds := binding_of_listed listed
  refine ⟨d.precedes_operator binds (Nat.le_of_lt lower) 0 _, ?_⟩
  simp [stops_cons, joinLevel?, binds, lower]

/-- A primary ends at a power sign. -/
theorem endsAt_power (d : Derivation 8) (rest : List Token) :
    d.EndsAt (.operator .power :: rest) := by
  refine ⟨d.precedes_operator rfl (Nat.le_refl _) 0 _, ?_⟩
  simp [stops_cons, joinLevel?, Operator.binding?]

/-- Reading the tokens of a derivation stops behind them. -/
theorem plainFrom_placed {level : Nat} (d : Derivation level) {rest : List Token}
    (ends : d.EndsAt rest) :
    plainFrom 0 level (placed (d.yield ++ rest)) = .ok (d.tree, placed rest) := by
  rw [placed_append, d.plainFrom_append (Nat.le_refl _) (tokens_placed _) ends.1,
    plainExtend_of_stops 0 _ ends.2]

/-- Two derivations at the head of the same tokens end at the same place. -/
theorem same_end {level : Nat} {d e : Derivation level} {rest rest' : List Token}
    (same : d.yield ++ rest = e.yield ++ rest') (ends : d.EndsAt rest) (ends' : e.EndsAt rest') :
    d.yield = e.yield ∧ rest = rest' := by
  have read := d.plainFrom_placed ends
  rw [same, e.plainFrom_placed ends', Except.ok.injEq, Prod.mk.injEq] at read
  obtain rfl := placed_injective read.2
  exact ⟨List.append_cancel_right same, rfl⟩

/-- A phrase is no other phrase of its level with more tokens behind it, if it ends there. -/
theorem append_ne_yield {level : Nat} {d : Derivation level} {t : Token} {more : List Token}
    (ends : d.EndsAt (t :: more)) (e : Derivation level) : d.yield ++ t :: more ≠ e.yield := by
  intro same
  have rest := (same_end (same.trans (List.append_nil _).symm) ends e.endsAt_nil).2
  exact List.cons_ne_nil _ _ rest

/-! ### Operators that group to the left -/

theorem level_le_of_listed {level : Nat} {o : Operator} {head : String}
    (listed : (o, head) ∈ leftOperators level) : level ≤ 6 := by
  rcases listed_or_power (binding_of_listed listed) with ⟨-, -, le, -⟩ | ⟨-, same⟩
  · exact le
  · simp at same

/-- A phrase of a level that groups to the left starts with one of the next level, behind which
it is over or goes on with an operator of its own level. -/
theorem exists_first {level : Nat} : (d : Derivation level) → level ≤ 6 →
    ∃ (first : Derivation (level + 1)) (tail : List Token), d.yield = first.yield ++ tail ∧
      (tail = [] ∨ ∃ o head more, (o, head) ∈ leftOperators level ∧ tail = .operator o :: more)
  | climb _ inner, _ => ⟨inner, [], by rw [yield, List.append_nil], Or.inl rfl⟩
  | @binary _ o head listed left right, low => by
      obtain ⟨first, tail, same, ended⟩ := left.exists_first low
      refine ⟨first, tail ++ .operator o :: right.yield, by rw [yield, same, List.append_assoc], ?_⟩
      right
      rcases ended with rfl | ⟨o', head', more, listed', rfl⟩
      · exact ⟨o, head, right.yield, listed, rfl⟩
      · exact ⟨o', head', more ++ .operator o :: right.yield, listed', rfl⟩
  | negated _, low | denied _, low | power _ _, low => absurd low (by decide)
  | number _, low | text _, low | lookup _, low | call _ _, low | group _, low =>
      absurd low (by decide)

/-- What an operator joins is no phrase of the next level. -/
theorem binary_ne_climb {level : Nat} {o : Operator} {head : String}
    (listed : (o, head) ∈ leftOperators level) (left : Derivation level) (more : List Token)
    (inner : Derivation (level + 1)) : left.yield ++ .operator o :: more ≠ inner.yield := by
  obtain ⟨first, tail, split, ended⟩ := left.exists_first (level_le_of_listed listed)
  rw [split, List.append_assoc]
  rcases ended with rfl | ⟨o', head', following, listed', rfl⟩
  · exact append_ne_yield (first.endsAt_listed listed (Nat.lt_succ_self _) _) inner
  · exact append_ne_yield (first.endsAt_listed listed' (Nat.lt_succ_self _) _) inner

/-- The right-hand side of an operator does not reach over another operator of the level. -/
theorem right_ends {level : Nat} {o o' : Operator} {head head' : String}
    (listed : (o, head) ∈ leftOperators level) (listed' : (o', head') ∈ leftOperators level)
    {left left' : Derivation level} {right : Derivation (level + 1)} {between more : List Token}
    (sameLeft : left'.yield = left.yield ++ .operator o :: between) :
    right.yield ≠ between ++ .operator o' :: more := by
  intro sameRight
  have binds := binding_of_listed listed
  -- the longer left-hand side is read as the shorter one, extended over what is between
  have read := left'.plainFrom_placed left'.endsAt_nil
  rw [List.append_nil, sameLeft, placed_append, placed_cons,
    left.plainFrom_append (Nat.le_refl _) (tokens_placed _)
      (left.precedes_operator binds (Nat.le_refl _) 0 _),
    plainExtend_operator 0 _ binds (Nat.le_refl _), bind_eq_ok] at read
  obtain ⟨⟨tree, rest⟩, readBetween, -⟩ := read
  have low : level + 1 ≤ 7 := Nat.succ_le_succ (level_le_of_listed listed)
  obtain ⟨⟨consumed, d, split, written, -, behind⟩, stops⟩ :=
    readsWellBelow 0 _ (placed between) (Nat.lt_succ_self _) (level + 1) low tree rest readBetween
  -- so the right-hand side is read no further than the other operator
  have ends := d.endsAt_listed listed' (Nat.lt_succ_self _) more
  have behind' : d.Precedes (rest ++ placed (.operator o' :: more)) := by
    cases rest with
    | nil => exact ends.1
    | cons t others => exact behind
  have stops' : Stops (level + 1) (rest ++ placed (.operator o' :: more)) := by
    cases rest with
    | nil => exact ends.2
    | cons t others => exact stops
  have short : plainFrom 0 (level + 1) (placed right.yield) =
      .ok (d.tree, rest ++ placed (.operator o' :: more)) := by
    rw [sameRight, placed_append, split, List.append_assoc,
      d.plainFrom_append (Nat.le_refl _) written behind', plainExtend_of_stops 0 _ stops']
  have whole := right.plainFrom_placed right.endsAt_nil
  rw [List.append_nil, short] at whole
  simp at whole

/-- Two phrases joined by operators of one level are joined at the same place. -/
theorem same_join {level : Nat} {o o' : Operator} {head head' : String}
    (listed : (o, head) ∈ leftOperators level) (listed' : (o', head') ∈ leftOperators level)
    {left left' : Derivation level} {right right' : Derivation (level + 1)}
    (same : left.yield ++ .operator o :: right.yield =
      left'.yield ++ .operator o' :: right'.yield) :
    left.yield = left'.yield ∧ o = o' ∧ right.yield = right'.yield := by
  rcases List.append_eq_append_iff.mp same with
    ⟨between, sameLeft, sameRight⟩ | ⟨between, sameLeft, sameRight⟩
  · cases between with
    | nil => simpa [eq_comm] using And.intro sameLeft sameRight
    | cons t between =>
        rw [List.cons_append, List.cons.injEq] at sameRight
        obtain ⟨rfl, sameRight⟩ := sameRight
        exact absurd sameRight (right_ends listed listed' sameLeft)
  · cases between with
    | nil => simpa [eq_comm] using And.intro sameLeft sameRight
    | cons t between =>
        rw [List.cons_append, List.cons.injEq] at sameRight
        obtain ⟨rfl, sameRight⟩ := sameRight
        exact absurd sameRight (right_ends listed' listed sameLeft)

/-! ### Uniqueness -/

/-- A primary does not start with an operator. -/
theorem primary_head (d : Derivation 8) (o : Operator) (more rest : List Token) :
    d.yield ++ rest ≠ .operator o :: more := by
  cases d with
  | climb below _ => exact absurd below (by decide)
  | binary listed _ _ => exact absurd listed (by simp [leftOperators])
  | _ => simp [yield]

mutual

/-- Any tokens have at most one derivation at a level. -/
theorem eq_of_yield {level : Nat} (d e : Derivation level) (same : d.yield = e.yield) : d = e := by
  match d, e with
  | climb _ inner, climb _ inner' =>
      simp only [yield] at same
      rw [inner.eq_of_yield inner' same]
  | climb _ inner, binary listed left _ =>
      simp only [yield] at same
      exact absurd same.symm (binary_ne_climb listed left _ inner)
  | climb _ inner, negated _ | climb _ inner, denied _ =>
      simp only [yield] at same
      exact absurd same (by simpa using inner.primary_head _ _ [])
  | climb _ inner, power base _ =>
      simp only [yield] at same
      exact absurd same.symm (append_ne_yield (base.endsAt_power _) inner)
  | binary listed left _, climb _ inner =>
      simp only [yield] at same
      exact absurd same (binary_ne_climb listed left _ inner)
  | @binary _ o head listed left right, @binary _ o' head' listed' left' right' =>
      simp only [yield] at same
      obtain ⟨sameLeft, rfl, sameRight⟩ := same_join listed listed' same
      obtain rfl : head = head' := by
        simpa using (binding_of_listed listed).symm.trans (binding_of_listed listed')
      rw [left.eq_of_yield left' sameLeft, right.eq_of_yield right' sameRight]
  | binary listed _ _, negated _ | binary listed _ _, denied _ | binary listed _ _, power _ _ =>
      exact absurd (level_le_of_listed listed) (by decide)
  | negated _, climb _ inner | denied _, climb _ inner =>
      simp only [yield] at same
      exact absurd same.symm (by simpa using inner.primary_head _ _ [])
  | negated _, binary listed _ _ | denied _, binary listed _ _ | power _ _, binary listed _ _ =>
      exact absurd (level_le_of_listed listed) (by decide)
  | negated operand, negated operand' | denied operand, denied operand' =>
      simp only [yield, List.cons.injEq, true_and] at same
      rw [operand.eq_of_yield operand' same]
  | negated _, denied _ | denied _, negated _ => simp [yield] at same
  | negated _, power base _ | denied _, power base _ =>
      simp only [yield] at same
      exact absurd same.symm (base.primary_head _ _ _)
  | power base _, climb _ inner =>
      simp only [yield] at same
      exact absurd same (append_ne_yield (base.endsAt_power _) inner)
  | power base _, negated _ | power base _, denied _ =>
      simp only [yield] at same
      exact absurd same (base.primary_head _ _ _)
  | power base exponent, power base' exponent' =>
      simp only [yield] at same
      obtain ⟨sameBase, sameRest⟩ := same_end same (base.endsAt_power _) (base'.endsAt_power _)
      simp only [List.cons.injEq, true_and] at sameRest
      rw [base.eq_of_yield base' sameBase, exponent.eq_of_yield exponent' sameRest]
  | number _, number _ | text _, text _ | lookup _, lookup _ => simpa [yield] using same
  | call _ arguments, call _ arguments' =>
      simp only [yield, List.cons.injEq, List.append_cancel_right_eq, Token.name.injEq,
        true_and] at same
      rw [same.1, eq_of_yields arguments arguments' same.2]
  | group inner, group inner' =>
      simp only [yield, List.cons.injEq, List.append_cancel_right_eq, true_and] at same
      rw [inner.eq_of_yield inner' same]
  | climb below _, number _ | climb below _, text _ | climb below _, lookup _
  | climb below _, call _ _ | climb below _, group _
  | number _, climb below _ | text _, climb below _ | lookup _, climb below _
  | call _ _, climb below _ | group _, climb below _ => exact absurd below (by decide)
  | binary listed _ _, number _ | binary listed _ _, text _ | binary listed _ _, lookup _
  | binary listed _ _, call _ _ | binary listed _ _, group _
  | number _, binary listed _ _ | text _, binary listed _ _ | lookup _, binary listed _ _
  | call _ _, binary listed _ _ | group _, binary listed _ _ =>
      exact absurd (level_le_of_listed listed) (by decide)
  | number _, text _ | number _, lookup _ | number _, call _ _ | number _, group _
  | text _, number _ | text _, lookup _ | text _, call _ _ | text _, group _
  | lookup _, number _ | lookup _, text _ | lookup _, call _ _ | lookup _, group _
  | call _ _, number _ | call _ _, text _ | call _ _, lookup _ | call _ _, group _
  | group _, number _ | group _, text _ | group _, lookup _ | group _, call _ _ =>
      simp [yield] at same

/-- Any tokens are those of at most one sequence of arguments. -/
theorem eq_of_yields (ds es : List (Derivation 1)) (same : yields ds = yields es) : ds = es := by
  match ds, es with
  | [], [] => rfl
  | [], first :: more | first :: more, [] =>
      obtain ⟨t, following, head, -⟩ := yields_head first more
      simp [head, yields] at same
  | [only], [only'] =>
      simp only [yields] at same
      rw [only.eq_of_yield only' same]
  | [only], first :: second :: more =>
      simp only [yields] at same
      exact absurd same.symm (append_ne_yield (first.endsAt_comma _) only)
  | first :: second :: more, [only] =>
      simp only [yields] at same
      exact absurd same (append_ne_yield (first.endsAt_comma _) only)
  | first :: second :: more, first' :: second' :: more' =>
      simp only [yields] at same
      obtain ⟨sameFirst, sameRest⟩ := same_end same (first.endsAt_comma _) (first'.endsAt_comma _)
      simp only [List.cons.injEq, true_and] at sameRest
      rw [first.eq_of_yield first' sameFirst,
        eq_of_yields (second :: more) (second' :: more') sameRest]

end

end Cartography.Derivation

namespace Cartography.Expression

/-- What is read from tokens has a derivation that derives them. -/
theorem exists_derivation_of_ofTokens {tokens : Tokens} {tree : Expression}
    (read : ofTokens tokens = .ok tree) :
    ∃ d : Derivation 1, d.yield = tokens.items.map (·.token) ∧ d.tree = tree := by
  obtain ⟨ts, stop⟩ := tokens
  by_cases filled : ts = []
  · subst filled
    simp [ofTokens_nil] at read
  rw [ofTokens_eq stop filled, bind_eq_ok] at read
  obtain ⟨⟨tree', rest⟩, readFirst, read⟩ := read
  obtain ⟨⟨consumed, d, rfl, written, rfl, -⟩, -⟩ :=
    readsWellBelow stop _ ts (Nat.lt_succ_self _) 1 (by decide) tree' rest readFirst
  cases rest with
  | nil => exact ⟨d, by simpa using written.symm, by simpa using read⟩
  | cons found others => simp at read

/-- The tokens of a derivation are read as its expression. -/
theorem ofTokens_of_derivation (d : Derivation 1) {ts : List Located}
    (written : ts.map (·.token) = d.yield) (stop : Nat) :
    ofTokens ⟨ts, stop⟩ = .ok d.tree := by
  have filled : ts ≠ [] := by
    rintro rfl
    obtain ⟨t, more, head, -⟩ := d.yield_head
    simp [head] at written
  have read : plainFrom stop 1 ts = .ok (d.tree, []) := by
    rw [← List.append_nil ts, d.plainFrom_append (Nat.le_refl _) written d.precedes_nil,
      plainExtend_of_stops stop _ (stops_nil _)]
  rw [ofTokens_eq stop filled, read, ok_bind]

/-- Tokens are read as an expression exactly when the grammar derives them, and then as the one
that their only derivation stands for. The same holds of every text that has tokens. -/
theorem ofTokens_eq_ok_iff_derivation (tokens : Tokens) :
    (∀ tree, ofTokens tokens = .ok tree ↔
      ∃ d : Derivation 1, d.yield = tokens.items.map (·.token) ∧ d.tree = tree) ∧
    (∀ d e : Derivation 1, d.yield = tokens.items.map (·.token) →
      e.yield = tokens.items.map (·.token) → d = e) ∧
    ∀ source, Tokens.ofText source = .ok tokens → ofText source = ofTokens tokens := by
  refine ⟨?_, ?_, ?_⟩
  · intro tree
    constructor
    · exact exists_derivation_of_ofTokens
    · rintro ⟨d, written, rfl⟩
      exact ofTokens_of_derivation d written.symm tokens.stop
  · intro d e writtenD writtenE
    exact d.eq_of_yield e (writtenD.trans writtenE.symm)
  · intro source read
    rw [ofText, read]
    rfl

end Cartography.Expression
