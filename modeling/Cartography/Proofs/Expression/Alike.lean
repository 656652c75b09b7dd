import Cartography.Proofs.Expression.PlainReading

/-!
# Tokens that are read alike

Two lists of tokens are read alike where they start alike and go on alike behind that. They start
alike with the same token, and also where a name that is not called stands in the first and a call
of `get` with that name in the second. Every reader comes to the same on both of them and leaves
lists that are read alike, or turns both down.

## Implementation notes

Which lists go together is a parameter, and so is what the failures on them have in common. The
number of tokens that the induction is on is that of the first list.
-/

namespace Cartography.Expression

/-- How two lists of tokens start that are read alike, where what stands behind that is related. -/
inductive StartsAlike (Related : List Located → List Located → Prop) :
    List Located → List Located → Prop
  | ended : StartsAlike Related [] []
  | same (token : Token) (i j : Nat) {ts us : List Located} (behind : Related ts us) :
      StartsAlike Related (⟨token, i⟩ :: ts) (⟨token, j⟩ :: us)
  | lookup (name : String) (i j k l m : Nat) {ts us : List Located}
      (bare : ∀ t ∈ ts.head?, t.token ≠ .opening) (behind : Related ts us) :
      StartsAlike Related (⟨.name name, i⟩ :: ts)
        (⟨.name "get", j⟩ :: ⟨.opening, k⟩ :: ⟨.text name, l⟩ :: ⟨.closing, m⟩ :: us)

/-- What two readings come to that are alike: the same, with related tokens left, or failures that
have something in common. -/
inductive ComesAlike (Related : List Located → List Located → Prop)
    (Common : Rejection → Rejection → Prop) {α : Type} :
    Except Rejection (α × List Located) → Except Rejection (α × List Located) → Prop
  | read (a : α) {rest rest' : List Located} (behind : Related rest rest') :
      ComesAlike Related Common (.ok (a, rest)) (.ok (a, rest'))
  | turnedDown {r r' : Rejection} (common : Common r r') :
      ComesAlike Related Common (.error r) (.error r')

/-- Lists of tokens that are read alike if they are related: they start alike, and refusing them is
alike. -/
structure ReadAlike (Related : List Located → List Located → Prop)
    (Common : Rejection → Rejection → Prop) (stop stop' : Nat) : Prop where
  starts : ∀ {ts us : List Located}, Related ts us → StartsAlike Related ts us
  refused : ∀ {ts us : List Located}, Related ts us → ∀ {α : Type} (fault : Option Token → Fault),
    ComesAlike Related Common (refuse stop fault ts : Except Rejection (α × List Located))
      (refuse stop' fault us)

variable {Related : List Located → List Located → Prop} {Common : Rejection → Rejection → Prop}
  {stop stop' count : Nat} {ts us : List Located}

/-- Two steps in turn come to what is alike if each of them does. -/
theorem ComesAlike.bind {α β : Type} {x y : Except Rejection (α × List Located)}
    {f g : α × List Located → Except Rejection (β × List Located)}
    (first : ComesAlike Related Common x y)
    (further : ∀ a rest rest', x = .ok (a, rest) → Related rest rest' →
      ComesAlike Related Common (f (a, rest)) (g (a, rest'))) :
    ComesAlike Related Common (x.bind f) (y.bind g) := by
  cases first with
  | read a behind => exact further a _ _ rfl behind
  | turnedDown common => exact .turnedDown common

/-- Nothing about the first token is told apart that does not tell names apart. -/
theorem StartsAlike.head_iff (h : StartsAlike Related ts us) (P : Token → Prop)
    (names : ∀ s s', P (.name s) ↔ P (.name s')) :
    (∀ t ∈ us.head?, P t.token) ↔ ∀ t ∈ ts.head?, P t.token := by
  cases h with
  | ended => exact Iff.rfl
  | same token i j behind => simp
  | lookup name => simpa using names "get" name

/-- A call of `get` with a name is read as the lookup of that name. -/
theorem plainOperand_get (stop : Nat) (name : String) (i j k l : Nat) (others : List Located) :
    plainOperand stop (⟨.name "get", i⟩ :: ⟨.opening, j⟩ :: ⟨.text name, k⟩ :: ⟨.closing, l⟩ ::
      others) = .ok (lookup name, others) := by
  rw [plainOperand_call stop "get" i j (by simp), plainArguments_eq, plainFrom_eq,
    plainOperand_text, ok_bind, plainExtend_of_stops stop _ (by simp [stops_cons, joinLevel?])]
  rfl

/-- From fewer than `count` tokens expressions are read alike. -/
def AlikeBelow (Related : List Located → List Located → Prop)
    (Common : Rejection → Rejection → Prop) (stop stop' count : Nat) : Prop :=
  ∀ ts us : List Located, Related ts us → ts.length < count → ∀ least,
    ComesAlike Related Common (plainFrom stop least ts) (plainFrom stop' least us)

theorem plainExtend_alike (alike : ReadAlike Related Common stop stop')
    (below : AlikeBelow Related Common stop stop' count) (related : Related ts us)
    (few : ts.length ≤ count) (least : Nat) (left : Expression) :
    ComesAlike Related Common (plainExtend stop least left ts)
      (plainExtend stop' least left us) := by
  induction length : ts.length using Nat.strongRecOn generalizing ts us left with
  | ind n ih =>
      have starts := alike.starts related
      rcases stops_or_operator least ts with stops | ⟨o, b, position, others, rfl, binds, reached⟩
      · have stops' : Stops least us :=
          (starts.head_iff (fun token => ∀ level ∈ joinLevel? token, level < least)
            (fun _ _ => Iff.rfl)).mpr stops
        rw [plainExtend_of_stops _ _ stops, plainExtend_of_stops _ _ stops']
        exact .read left related
      · cases starts with
        | same _ _ j behind =>
            rw [List.length_cons] at length few
            rw [plainExtend_operator stop left binds reached,
              plainExtend_operator stop' left binds reached]
            apply (below _ _ behind (by omega) b.rightLevel).bind
            intro right rest rest' read further
            have fewer := length_lt_of_plainFrom read
            exact ih rest.length (by omega) further (by omega) _ rfl

theorem plainFurther_alike {callee : String} (alike : ReadAlike Related Common stop stop')
    (related : Related ts us) (first : Expression)
    (more : ∀ position others us', ts = ⟨.comma, position⟩ :: others → Related others us' →
      ComesAlike Related Common (plainArguments stop callee others)
        (plainArguments stop' callee us')) :
    ComesAlike Related Common (plainFurther stop callee first ts)
      (plainFurther stop' callee first us) := by
  have starts := alike.starts related
  by_cases other : ∀ t ∈ ts.head?, t.token ≠ .comma ∧ t.token ≠ .closing
  · have other' := (starts.head_iff (fun token => token ≠ .comma ∧ token ≠ .closing)
      (by simp)).mpr other
    rw [plainFurther_refused _ _ _ other, plainFurther_refused _ _ _ other']
    exact alike.refused related _
  · cases starts with
    | ended => simp at other
    | lookup => simp at other
    | same token i j behind =>
        cases token with
        | comma =>
            rw [plainFurther_comma, plainFurther_comma]
            apply (more i _ _ rfl behind).bind
            intro arguments rest rest' _ further
            exact .read _ further
        | closing => exact .read [first] behind
        | _ => simp at other

theorem plainArguments_alike (alike : ReadAlike Related Common stop stop')
    (below : AlikeBelow Related Common stop stop' count) (related : Related ts us)
    (few : ts.length < count) (callee : String) :
    ComesAlike Related Common (plainArguments stop callee ts)
      (plainArguments stop' callee us) := by
  induction length : ts.length using Nat.strongRecOn generalizing ts us with
  | ind n ih =>
      rw [plainArguments_eq, plainArguments_eq]
      apply (below ts us related few 1).bind
      intro first rest rest' read behind
      have fewer := length_lt_of_plainFrom read
      apply plainFurther_alike alike behind
      rintro position others us' rfl further
      rw [List.length_cons] at fewer
      exact ih others.length (by omega) further (by omega) rfl

theorem plainClose_alike (alike : ReadAlike Related Common stop stop') (related : Related ts us)
    (inner : Expression) :
    ComesAlike Related Common (plainClose stop inner ts) (plainClose stop' inner us) := by
  have starts := alike.starts related
  by_cases other : ∀ t ∈ ts.head?, t.token ≠ .closing
  · have other' := (starts.head_iff (· ≠ .closing) (by simp)).mpr other
    rw [plainClose_refused _ _ other, plainClose_refused _ _ other']
    exact alike.refused related _
  · obtain ⟨position, others, rfl⟩ := exists_cons_of_head other
    cases starts with
    | same _ _ j behind => exact .read inner behind

/-- The same name is read alike, as a lookup or as a call. -/
theorem plainOperand_name_alike (alike : ReadAlike Related Common stop stop')
    (below : AlikeBelow Related Common stop stop' count) {name : String} {i j : Nat}
    (related : Related ts us) (few : ts.length < count) :
    ComesAlike Related Common (plainOperand stop (⟨.name name, i⟩ :: ts))
      (plainOperand stop' (⟨.name name, j⟩ :: us)) := by
  have starts := alike.starts related
  by_cases bare : ∀ t ∈ ts.head?, t.token ≠ .opening
  · have bare' := (starts.head_iff (· ≠ .opening) (by simp)).mpr bare
    rw [plainOperand_name stop name i bare, plainOperand_name stop' name j bare']
    exact .read _ related
  · obtain ⟨k, inside, rfl⟩ := exists_cons_of_head bare
    cases starts with
    | same _ _ l behind =>
        rw [List.length_cons] at few
        have startsInside := alike.starts behind
        by_cases filled : ∀ t ∈ inside.head?, t.token ≠ .closing
        · have filled' := (startsInside.head_iff (· ≠ .closing) (by simp)).mpr filled
          rw [plainOperand_call stop name i k filled, plainOperand_call stop' name j l filled']
          apply (plainArguments_alike alike below behind (by omega) name).bind
          intro arguments rest rest' _ further
          exact .read _ further
        · obtain ⟨m, after, rfl⟩ := exists_cons_of_head filled
          cases startsInside with
          | same _ _ n further =>
              rw [plainOperand_emptyCall, plainOperand_emptyCall]
              exact .read _ further

theorem plainOperand_alike (alike : ReadAlike Related Common stop stop')
    (below : AlikeBelow Related Common stop stop' count) (related : Related ts us)
    (few : ts.length ≤ count) :
    ComesAlike Related Common (plainOperand stop ts) (plainOperand stop' us) := by
  have starts := alike.starts related
  by_cases none_starts : ∀ t ∈ ts.head?, startsOperand t.token = false
  · have none_starts' := (starts.head_iff (startsOperand · = false) (by simp [startsOperand])).mpr
      none_starts
    rw [plainOperand_refused _ none_starts, plainOperand_refused _ none_starts']
    exact alike.refused related _
  cases starts with
  | ended => simp at none_starts
  | lookup name i j k l m bare behind =>
      rw [plainOperand_name stop name i bare, plainOperand_get]
      exact .read _ behind
  | same token i j behind =>
      rw [List.length_cons] at few
      cases token with
      | operator o =>
          have some_starts : o.front? ≠ none := by simpa [startsOperand] using none_starts
          obtain ⟨build, stands⟩ := Option.ne_none_iff_exists'.mp some_starts
          rw [plainOperand_front stop stands, plainOperand_front stop' stands]
          apply (below _ _ behind (by omega) 7).bind
          intro operand rest rest' _ further
          exact .read _ further
      | number n =>
          rw [plainOperand_number, plainOperand_number]
          exact .read _ behind
      | text s =>
          rw [plainOperand_text, plainOperand_text]
          exact .read _ behind
      | name name => exact plainOperand_name_alike alike below behind (by omega)
      | opening =>
          rw [plainOperand_group, plainOperand_group]
          apply (below _ _ behind (by omega) 1).bind
          intro inner rest rest' _ further
          exact plainClose_alike alike further inner
      | closing => simp [startsOperand] at none_starts
      | comma => simp [startsOperand] at none_starts

theorem alikeBelow (alike : ReadAlike Related Common stop stop') (count : Nat) :
    AlikeBelow Related Common stop stop' count := by
  induction count with
  | zero => exact fun ts us _ few => absurd few (Nat.not_lt_zero _)
  | succ count ih =>
      intro ts us related few least
      rw [plainFrom_eq, plainFrom_eq]
      apply (plainOperand_alike alike ih related (by omega)).bind
      intro operand rest rest' read behind
      have fewer := length_lt_of_plainOperand read
      exact plainExtend_alike alike ih behind (by omega) least operand

/-- What is wrong with tokens that are left over, or with a text that has none. -/
def leftOver : Option Token → Fault
  | some found => trailing found
  | none => .emptyExpression

/-- Related tokens write the same expression, or both write none. -/
theorem ofTokens_alike (alike : ReadAlike Related Common stop stop') (related : Related ts us) :
    (∃ tree, ofTokens ⟨ts, stop⟩ = .ok tree ∧ ofTokens ⟨us, stop'⟩ = .ok tree) ∨
      ∃ r r', ofTokens ⟨ts, stop⟩ = .error r ∧ ofTokens ⟨us, stop'⟩ = .error r' ∧ Common r r' := by
  by_cases filled : ts = []
  · subst filled
    have refused := alike.refused (α := Unit) related leftOver
    cases alike.starts related with
    | ended =>
        cases refused with
        | turnedDown common => exact Or.inr ⟨_, _, rfl, rfl, common⟩
  · have filled' : us ≠ [] := by
      cases alike.starts related with
      | ended => exact absurd rfl filled
      | same => simp
      | lookup => simp
    rw [ofTokens_eq stop filled, ofTokens_eq stop' filled']
    have outcome := alikeBelow alike (ts.length + 1) ts us related (Nat.lt_succ_self _) 1
    generalize plainFrom stop 1 ts = x, plainFrom stop' 1 us = y at outcome
    cases outcome with
    | turnedDown common => exact Or.inr ⟨_, _, rfl, rfl, common⟩
    | read tree behind =>
        have refused := alike.refused (α := Unit) behind leftOver
        cases alike.starts behind with
        | ended => exact Or.inl ⟨tree, rfl, rfl⟩
        | same =>
            cases refused with
            | turnedDown common => exact Or.inr ⟨_, _, rfl, rfl, common⟩
        | lookup =>
            cases refused with
            | turnedDown common => exact Or.inr ⟨_, _, rfl, rfl, common⟩

end Cartography.Expression
