import Cartography.Expression.Reading
import Cartography.Proofs.Outcome

/-!
# The readers without their length bounds

Each reader returns the tokens it left together with a bound on their number. Here every reader
is restated with the bound dropped, and each of its cases becomes one equation between the
restated readers.

## Implementation notes

The bounds come back as lemmas about the restated readers, so that an induction on the number of
tokens never has to look at a reader's definition.
-/

namespace Cartography.Expression

/-- The result of a reader without the bound on what it left. -/
def plain {α : Type} {P : List Located → Prop}
    (result : Except Rejection (α × { rest // P rest })) :
    Except Rejection (α × List Located) :=
  result.map fun p => (p.1, p.2.1)

/-- An expression at the head of some tokens whose operators are at least of a level. -/
def plainFrom (stop least : Nat) (ts : List Located) :
    Except Rejection (Expression × List Located) :=
  plain (readFrom stop least ts)

/-- A left-hand side with the operators behind it. -/
def plainExtend (stop least : Nat) (left : Expression) (ts : List Located) :
    Except Rejection (Expression × List Located) :=
  plain (extend stop least left ts)

/-- An operand at the head of some tokens. -/
def plainOperand (stop : Nat) (ts : List Located) : Except Rejection (Expression × List Located) :=
  plain (readOperand stop ts)

/-- The arguments of a call at the head of some tokens, and the bracket behind them. -/
def plainArguments (stop : Nat) (callee : String) (ts : List Located) :
    Except Rejection (List Expression × List Located) :=
  plain (readArguments stop callee ts)

/-- Tokens whose head is not other than a token start with it. -/
theorem exists_cons_of_head {token : Token} {ts : List Located}
    (h : ¬ ∀ t ∈ ts.head?, t.token ≠ token) :
    ∃ position others, ts = ⟨token, position⟩ :: others := by
  rcases ts with _ | ⟨⟨found, position⟩, others⟩
  · simp at h
  · obtain rfl : found = token := by simpa using h
    exact ⟨position, others, rfl⟩

/-! ### What the readers leave -/

/-- What is left by a reader obeys the bound that was dropped. -/
theorem bound_of_plain {α : Type} {P : List Located → Prop}
    {result : Except Rejection (α × { rest // P rest })} {a : α} {rest : List Located}
    (h : plain result = .ok (a, rest)) : P rest := by
  cases result with
  | error r => simp [plain, Except.map] at h
  | ok p =>
      simp only [plain, Except.map, Except.ok.injEq, Prod.mk.injEq] at h
      exact h.2 ▸ p.2.2

variable {stop least : Nat} {ts rest : List Located} {tree : Expression}

theorem length_lt_of_plainFrom (h : plainFrom stop least ts = .ok (tree, rest)) :
    rest.length < ts.length := bound_of_plain h

theorem length_lt_of_plainOperand (h : plainOperand stop ts = .ok (tree, rest)) :
    rest.length < ts.length := bound_of_plain h

/-! ### An expression and its operators -/

/-- An expression is an operand, extended by the operators behind it. -/
theorem plainFrom_eq (stop least : Nat) (ts : List Located) :
    plainFrom stop least ts =
      (plainOperand stop ts).bind fun p => plainExtend stop least p.1 p.2 := by
  unfold plainFrom plainOperand plainExtend
  rw [readFrom]
  cases readOperand stop ts with
  | error r => rfl
  | ok p =>
      cases h : extend stop least p.1 p.2.1 with
      | error r => simp [plain, bind, Except.bind, Except.map, h]
      | ok q => simp [plain, bind, Except.bind, Except.map, h, pure, Except.pure]

/-- An operator that binds tightly enough is read with its right-hand side. -/
theorem plainExtend_operator (stop : Nat) {least : Nat} (left : Expression) {o : Operator}
    {b : Binding} (binds : o.binding? = some b) (reached : least ≤ b.level) (position : Nat)
    (others : List Located) :
    plainExtend stop least left (⟨.operator o, position⟩ :: others) =
      (plainFrom stop b.rightLevel others).bind fun p =>
        plainExtend stop least (.call b.head [left, p.1]) p.2 := by
  unfold plainFrom plainExtend
  rw [extend]
  simp only [binds, if_neg (Nat.not_lt.mpr reached)]
  cases readFrom stop b.rightLevel others with
  | error r => rfl
  | ok p =>
      cases h : extend stop least (.call b.head [left, p.1]) p.2.1 with
      | error r => simp [plain, bind, Except.bind, Except.map, h]
      | ok q => simp [plain, bind, Except.bind, Except.map, h, pure, Except.pure]

/-- The level at which a token goes on with an expression, if it does. -/
def joinLevel? : Token → Option Nat
  | .operator o => o.binding?.map (·.level)
  | _ => none

/-- No token at the head of `ts` goes on with an expression of a level. -/
def Stops (least : Nat) (ts : List Located) : Prop :=
  ∀ t ∈ ts.head?, ∀ level ∈ joinLevel? t.token, level < least

@[simp] theorem stops_nil (least : Nat) : Stops least [] := by
  simp [Stops]

theorem stops_cons {least : Nat} {t : Located} {others : List Located} :
    Stops least (t :: others) ↔ ∀ level ∈ joinLevel? t.token, level < least := by
  simp [Stops]

/-- Where no operator goes on, the left-hand side is all there is. -/
theorem plainExtend_of_stops (stop : Nat) {least : Nat} (left : Expression) {ts : List Located}
    (stops : Stops least ts) : plainExtend stop least left ts = .ok (left, ts) := by
  unfold plainExtend
  rcases ts with _ | ⟨⟨token, position⟩, others⟩
  · rw [extend] <;> simp [plain, Except.map]
  · cases token with
    | operator o =>
        rw [extend]
        cases binds : o.binding? with
        | none => rfl
        | some b =>
            have lower : b.level < least := by
              simpa [joinLevel?, binds] using stops_cons.mp stops
            simp [lower, plain, Except.map]
    | _ => rw [extend] <;> simp [plain, Except.map]

/-- Tokens either stop an expression of a level or start with an operator that goes on with it. -/
theorem stops_or_operator (least : Nat) (ts : List Located) :
    Stops least ts ∨ ∃ o b position others, ts = ⟨.operator o, position⟩ :: others ∧
      o.binding? = some b ∧ least ≤ b.level := by
  rcases ts with _ | ⟨⟨token, position⟩, others⟩
  · exact Or.inl (stops_nil least)
  · by_cases stops : Stops least (⟨token, position⟩ :: others)
    · exact Or.inl stops
    · right
      cases token with
      | operator o =>
          cases binds : o.binding? with
          | none => simp [stops_cons, joinLevel?, binds] at stops
          | some b =>
              refine ⟨o, b, position, others, rfl, binds, ?_⟩
              simpa [stops_cons, joinLevel?, binds] using stops
      | _ => simp [stops_cons, joinLevel?] at stops

/-- Every binary operator is at least of the first level, so to ask for no level at all is to ask
for the first. -/
theorem plainExtend_zero (stop : Nat) (left : Expression) (ts : List Located) :
    plainExtend stop 0 left ts = plainExtend stop 1 left ts := by
  induction h : ts.length using Nat.strongRecOn generalizing left ts with
  | ind n ih =>
      rcases stops_or_operator 0 ts with stops | ⟨o, b, position, others, rfl, binds, reached⟩
      · have stops' : Stops 1 ts := fun t ht level hl => Nat.lt_succ_of_lt (stops t ht level hl)
        rw [plainExtend_of_stops stop left stops, plainExtend_of_stops stop left stops']
      · have positive : 1 ≤ b.level := by
          cases o <;> simp only [Operator.binding?, Option.some.injEq, reduceCtorEq] at binds <;>
            subst binds <;> decide
        rw [plainExtend_operator stop left binds reached,
          plainExtend_operator stop left binds positive]
        cases read : plainFrom stop b.rightLevel others with
        | error r => rfl
        | ok p =>
            have shorter := length_lt_of_plainFrom read
            exact ih p.2.length (by simp only [List.length_cons] at h; omega) _ _ rfl

theorem plainFrom_zero (stop : Nat) (ts : List Located) :
    plainFrom stop 0 ts = plainFrom stop 1 ts := by
  simp only [plainFrom_eq, plainExtend_zero]

/-! ### Operands -/

/-- A prefix operator takes the operand behind it. -/
theorem plainOperand_front (stop : Nat) {o : Operator} {build : Expression → Expression}
    (stands : o.front? = some build) (position : Nat) (others : List Located) :
    plainOperand stop (⟨.operator o, position⟩ :: others) =
      (plainFrom stop 7 others).bind fun p => .ok (build p.1, p.2) := by
  unfold plainFrom plainOperand
  rw [readOperand]
  simp only [stands, Operator.operandLevel]
  cases readFrom stop 7 others <;> rfl

@[simp] theorem plainOperand_number (stop : Nat) (n : Number) (position : Nat)
    (others : List Located) :
    plainOperand stop (⟨.number n, position⟩ :: others) = .ok (.number n, others) := by
  unfold plainOperand
  rw [readOperand]
  rfl

@[simp] theorem plainOperand_text (stop : Nat) (s : String) (position : Nat)
    (others : List Located) :
    plainOperand stop (⟨.text s, position⟩ :: others) = .ok (.text s, others) := by
  unfold plainOperand
  rw [readOperand]
  rfl

/-- A name without a bracket behind it is a lookup. -/
theorem plainOperand_name (stop : Nat) (name : String) (position : Nat) {others : List Located}
    (bare : ∀ t ∈ others.head?, t.token ≠ .opening) :
    plainOperand stop (⟨.name name, position⟩ :: others) = .ok (lookup name, others) := by
  unfold plainOperand
  rw [readOperand]
  · rfl
  · rintro i j following rfl
    simp at bare
  · rintro i following rfl
    simp at bare

@[simp] theorem plainOperand_emptyCall (stop : Nat) (callee : String) (i j k : Nat)
    (others : List Located) :
    plainOperand stop (⟨.name callee, i⟩ :: ⟨.opening, j⟩ :: ⟨.closing, k⟩ :: others) =
      .ok (.call callee [], others) := by
  unfold plainOperand
  rw [readOperand]
  rfl

/-- A name with a bracket behind it that is not closed at once is a call with arguments. -/
theorem plainOperand_call (stop : Nat) (callee : String) (i j : Nat) {others : List Located}
    (filled : ∀ t ∈ others.head?, t.token ≠ .closing) :
    plainOperand stop (⟨.name callee, i⟩ :: ⟨.opening, j⟩ :: others) =
      (plainArguments stop callee others).bind fun p => .ok (.call callee p.1, p.2) := by
  unfold plainOperand plainArguments
  rw [readOperand]
  · cases readArguments stop callee others <;> rfl
  · rintro k following rfl
    simp at filled

/-- The closing bracket behind an expression in brackets. -/
def plainClose (stop : Nat) (inner : Expression) :
    List Located → Except Rejection (Expression × List Located)
  | ⟨.closing, _⟩ :: after => .ok (inner, after)
  | found => refuse stop .unclosedGroup found

theorem plainClose_refused (stop : Nat) (inner : Expression) {ts : List Located}
    (other : ∀ t ∈ ts.head?, t.token ≠ .closing) :
    plainClose stop inner ts = refuse stop .unclosedGroup ts := by
  rcases ts with _ | ⟨⟨token, position⟩, others⟩
  · rfl
  · cases token with
    | closing => simp at other
    | _ => rfl

/-- A bracket takes an expression and its own closing bracket. -/
theorem plainOperand_group (stop position : Nat) (others : List Located) :
    plainOperand stop (⟨.opening, position⟩ :: others) =
      (plainFrom stop 1 others).bind fun p => plainClose stop p.1 p.2 := by
  rw [← plainFrom_zero]
  unfold plainOperand plainFrom
  rw [readOperand]
  cases readFrom stop 0 others with
  | error r => rfl
  | ok p =>
      obtain ⟨inner, rest, shorter⟩ := p
      rcases rest with _ | ⟨⟨token, i⟩, after⟩
      · rfl
      · cases token <;> rfl

/-- Whether an operand can start with a token. -/
def startsOperand : Token → Bool
  | .operator o => o.front?.isSome
  | .closing | .comma => false
  | _ => true

/-- Where no operand can start, none is read. -/
theorem plainOperand_refused (stop : Nat) {ts : List Located}
    (none_starts : ∀ t ∈ ts.head?, startsOperand t.token = false) :
    plainOperand stop ts = refuse stop noOperand ts := by
  unfold plainOperand
  rcases ts with _ | ⟨⟨token, position⟩, others⟩
  · rw [readOperand] <;> simp [plain, refuse, Except.map]
  · cases token with
    | operator o =>
        have stands : o.front? = none := by simpa [startsOperand] using none_starts
        rw [readOperand]
        simp [stands, plain, refuse, Except.map]
    | closing => rw [readOperand] <;> simp [plain, refuse, Except.map]
    | comma => rw [readOperand] <;> simp [plain, refuse, Except.map]
    | _ => simp [startsOperand] at none_starts

/-! ### Arguments -/

/-- What stands behind an argument: a comma and further arguments, or the closing bracket. -/
def plainFurther (stop : Nat) (callee : String) (first : Expression) :
    List Located → Except Rejection (List Expression × List Located)
  | ⟨.comma, _⟩ :: others =>
      (plainArguments stop callee others).bind fun p => .ok (first :: p.1, p.2)
  | ⟨.closing, _⟩ :: after => .ok ([first], after)
  | found => refuse stop (.unclosedCall callee) found

theorem plainFurther_comma (stop : Nat) (callee : String) (first : Expression) (position : Nat)
    (others : List Located) :
    plainFurther stop callee first (⟨.comma, position⟩ :: others) =
      (plainArguments stop callee others).bind fun p => .ok (first :: p.1, p.2) := rfl

theorem plainFurther_refused (stop : Nat) (callee : String) (first : Expression)
    {ts : List Located} (other : ∀ t ∈ ts.head?, t.token ≠ .comma ∧ t.token ≠ .closing) :
    plainFurther stop callee first ts = refuse stop (.unclosedCall callee) ts := by
  rcases ts with _ | ⟨⟨token, position⟩, others⟩
  · rfl
  · cases token with
    | comma => simp at other
    | closing => simp at other
    | _ => rfl

/-- Arguments are an expression and what stands behind it. -/
theorem plainArguments_eq (stop : Nat) (callee : String) (ts : List Located) :
    plainArguments stop callee ts =
      (plainFrom stop 1 ts).bind fun p => plainFurther stop callee p.1 p.2 := by
  rw [← plainFrom_zero]
  unfold plainArguments plainFrom
  rw [readArguments]
  cases readFrom stop 0 ts with
  | error r => rfl
  | ok p =>
      obtain ⟨first, rest, shorter⟩ := p
      rcases rest with _ | ⟨⟨token, i⟩, after⟩
      · rfl
      · cases token with
        | comma =>
            simp only [plain, bind, Except.bind, Except.map, pure, Except.pure, plainFurther,
              plainArguments]
            cases readArguments stop callee after <;> rfl
        | _ => rfl

/-! ### Whole texts -/

theorem ofTokens_nil (stop : Nat) : ofTokens ⟨[], stop⟩ = .error (.faulty .emptyExpression stop) :=
  rfl

/-- Some tokens are an expression when one is read that leaves none of them. -/
theorem ofTokens_eq (stop : Nat) {ts : List Located} (filled : ts ≠ []) :
    ofTokens ⟨ts, stop⟩ = (plainFrom stop 1 ts).bind fun p =>
      match p.2 with
      | [] => .ok p.1
      | found :: _ => .error (.faulty (trailing found.token) found.position) := by
  rw [← plainFrom_zero]
  obtain ⟨t, others, rfl⟩ := List.exists_cons_of_ne_nil filled
  unfold ofTokens plainFrom
  cases read : readFrom stop 0 (t :: others) with
  | error r => simp [read, plain, bind, Except.bind, Except.map]
  | ok p =>
      obtain ⟨tree, rest, shorter⟩ := p
      cases rest <;>
        simp [read, plain, bind, Except.bind, Except.map, pure, Except.pure, throw, throwThe,
          MonadExceptOf.throw]

end Cartography.Expression
