import Cartography.Proofs.Expression.PlainReading
import Cartography.Proofs.Expression.ReadingWalk

/-!
# Walks that follow the readers

A walk along tokens does what a reader does with the tokens ahead of the cursor, provided that it
may nest as many calls as those tokens can ask for. A token asks for four: the walks along an
expression, an operand and an operand without prefix operators come one inside the other at the
same token, and arguments come around an expression.

## Implementation notes

The room that each walk needs is four times the tokens ahead and a few more, which tell how many
walks may be started at one token before the next is passed. All walks are taken together, by
induction on the calls that they may nest.
-/

namespace Cartography.Walk

open Cursor Expression

variable {tokens : Tokens} {c d : Cursor} {t : Located} {rest : List Located} {token : Token}
  {fault : Option Token → Fault}

/-! ### Following a reader -/

/-- A walk does what a reader does: from the tokens ahead it comes to the same value and leaves the
cursor in front of the tokens that the reader leaves, or it turns them down as the reader does. -/
inductive Follows (tokens : Tokens) (c : Cursor) {α : Type} :
    Except Rejection (α × List Located) → Except Halt α × Cursor → Prop
  | read (a : α) {d : Cursor} (way : c.Goes tokens d) :
      Follows tokens c (.ok (a, d.ahead tokens)) (.ok a, d)
  | turnedDown (r : Rejection) {d : Cursor} (way : c.Goes tokens d) :
      Follows tokens c (.error r) (.error (.turnedDown r), d)

namespace Follows

variable {α β : Type}

theorem after {x : Except Rejection (α × List Located)} {outcome : Except Halt α × Cursor}
    (way : c.Goes tokens d) (follows : Follows tokens d x outcome) :
    Follows tokens c x outcome := by
  cases follows with
  | read a further => exact .read a (way.trans further)
  | turnedDown r further => exact .turnedDown r (way.trans further)

/-- Two walks in turn follow two readers in turn. -/
theorem bind {x : Except Rejection (α × List Located)} {walk : Walk Cursor α}
    {f : α × List Located → Except Rejection (β × List Located)} {next : α → Walk Cursor β}
    (first : Follows tokens c x (walk c))
    (further : ∀ a d, c.Goes tokens d → x = .ok (a, d.ahead tokens) →
      Follows tokens d (f (a, d.ahead tokens)) (next a d)) :
    Follows tokens c (x.bind f) ((walk >>= next) c) := by
  generalize came : walk c = outcome at first
  cases first with
  | read a way =>
      rw [Walk.bind_ok came]
      exact (further a _ way rfl).after way
  | turnedDown r way =>
      rw [Walk.bind_error came]
      exact .turnedDown r way

theorem passed (a : α) (found : c.ahead tokens = t :: rest) :
    Follows tokens c (.ok (a, rest)) (.ok a, c.next) := by
  have follows : Follows tokens c (.ok (a, c.next.ahead tokens)) (.ok a, c.next) :=
    .read a (goes_next found)
  rwa [ahead_next found] at follows

end Follows

/-- To turn down is to break off at once. -/
theorem turnDown_halts (within : c.index ≤ tokens.items.length)
    (fault : Option Token → Fault) :
    ∃ h, ∀ α : Type, (turnDown tokens fault : Walk Cursor α) c = (.error h, c) := by
  cases found : (c.ahead tokens).head? with
  | none => exact ⟨_, fun α => by rw [turnDown, bind_ok (current_eq within), found]; rfl⟩
  | some t => exact ⟨_, fun α => by rw [turnDown, bind_ok (current_eq within), found]; rfl⟩

/-- To turn down is to break off as the reader does that refuses what it finds. -/
theorem follows_turnDown {α : Type} (within : c.index ≤ tokens.items.length)
    (fault : Option Token → Fault) :
    Follows tokens c (refuse tokens.stop fault (c.ahead tokens) : Except Rejection (α × _))
      (turnDown tokens fault c) := by
  rw [turnDown, bind_ok (current_eq within)]
  cases c.ahead tokens with
  | nil => exact .turnedDown _ (.refl within)
  | cons t rest => exact .turnedDown _ (.refl within)

/-- Where a token has to stand and does not, what comes next is not come to. -/
theorem follows_expect_of_other {α : Type} {next : Unit → Walk Cursor α}
    (within : c.index ≤ tokens.items.length)
    (other : ∀ t ∈ (c.ahead tokens).head?, t.token ≠ token) :
    Follows tokens c (refuse tokens.stop fault (c.ahead tokens))
      ((expect tokens token fault >>= next) c) := by
  obtain ⟨h, broken⟩ := turnDown_halts within fault
  rw [bind_error ((expect_of_other within other).trans (broken _)), ← broken α]
  exact follows_turnDown within fault

/-- An operator is turned down where an operand without prefix operators has to start. -/
theorem primary_of_operator {o : Operator} {position depth : Nat}
    (found : c.ahead tokens = ⟨.operator o, position⟩ :: rest) :
    primary tokens (depth + 1) c = turnDown tokens noOperand c := by
  rw [Walk.primary, bind_ok (peek_eq some (Nat.le_of_lt (index_lt found))), found]
  rfl

/-- A closing bracket is passed where the reader passes it. -/
theorem follows_close (within : c.index ≤ tokens.items.length) (inner : Expression) :
    Follows tokens c (plainClose tokens.stop inner (c.ahead tokens))
      ((do expect tokens .closing .unclosedGroup; return inner : Walk Cursor Expression) c) := by
  by_cases other : ∀ t ∈ (c.ahead tokens).head?, t.token ≠ .closing
  · rw [plainClose_refused _ _ other]
    exact follows_expect_of_other within other
  · obtain ⟨position, after, found⟩ := exists_cons_of_head other
    rw [bind_ok (expect_of_found found), found]
    exact .passed inner found

/-- No prefix operator is at the head of some tokens, or one is. -/
theorem plain_or_front (ts : List Located) :
    (∀ t ∈ ts.head?, t.token.front? = none) ∨ ∃ o build position others,
      ts = ⟨.operator o, position⟩ :: others ∧ o.front? = some build := by
  rcases ts with _ | ⟨⟨token, position⟩, others⟩
  · exact .inl (by simp)
  cases stands : token.front? with
  | none => exact .inl (by simpa using stands)
  | some build =>
      cases token with
      | operator o => exact .inr ⟨o, build, position, others, rfl, stands⟩
      | _ => cases stands

/-- Walks that may nest so many calls follow the readers from wherever that is enough. -/
structure FollowReaders (tokens : Tokens) (depth : Nat) : Prop where
  binary : ∀ c, c.index ≤ tokens.items.length → 4 * (c.ahead tokens).length + 3 ≤ depth →
    ∀ least, Follows tokens c (plainFrom tokens.stop least (c.ahead tokens))
      (binary tokens depth least c)
  extended : ∀ c, c.index ≤ tokens.items.length → 4 * (c.ahead tokens).length + 1 ≤ depth →
    ∀ least left, Follows tokens c (plainExtend tokens.stop least left (c.ahead tokens))
      (extended tokens depth least left c)
  unary : ∀ c, c.index ≤ tokens.items.length → 4 * (c.ahead tokens).length + 2 ≤ depth →
    Follows tokens c (plainOperand tokens.stop (c.ahead tokens)) (unary tokens depth c)
  primary : ∀ c, c.index ≤ tokens.items.length → 4 * (c.ahead tokens).length + 1 ≤ depth →
    (∀ t ∈ (c.ahead tokens).head?, t.token.front? = none) →
    Follows tokens c (plainOperand tokens.stop (c.ahead tokens)) (primary tokens depth c)
  call : ∀ c position rest, c.ahead tokens = ⟨.opening, position⟩ :: rest →
    4 * (c.ahead tokens).length + 1 ≤ depth → ∀ callee i,
    Follows tokens c.next (plainOperand tokens.stop (⟨.name callee, i⟩ :: c.ahead tokens))
      (call tokens depth callee c)
  arguments : ∀ c, c.index ≤ tokens.items.length → 4 * (c.ahead tokens).length + 4 ≤ depth →
    ∀ callee, Follows tokens c (plainArguments tokens.stop callee (c.ahead tokens))
      (arguments tokens depth callee c)

section Deeper

variable {depth : Nat} (deeper : FollowReaders tokens depth)
include deeper

/-- An expression is walked as an operand and what extends it. -/
theorem follows_binary (within : c.index ≤ tokens.items.length)
    (room : 4 * (c.ahead tokens).length + 3 ≤ depth + 1) (least : Nat) :
    Follows tokens c (plainFrom tokens.stop least (c.ahead tokens))
      (binary tokens (depth + 1) least c) := by
  rw [plainFrom_eq, Walk.binary]
  refine (deeper.unary c within (by omega)).bind fun left d way read => ?_
  have shorter := length_lt_of_plainOperand read
  exact deeper.extended d way.within (by omega) least left

/-- The operators behind a left-hand side are passed while they bind tightly enough. -/
theorem follows_extended (within : c.index ≤ tokens.items.length)
    (room : 4 * (c.ahead tokens).length + 1 ≤ depth + 1) (least : Nat) (left : Expression) :
    Follows tokens c (plainExtend tokens.stop least left (c.ahead tokens))
      (extended tokens (depth + 1) least left c) := by
  rw [Walk.extended, bind_ok (peek_eq Token.binding? within)]
  rcases stops_or_operator least (c.ahead tokens) with
    stops | ⟨o, b, position, others, found, binds, reached⟩
  · rw [plainExtend_of_stops _ left stops]
    cases told : (c.ahead tokens).head?.bind fun t => t.token.binding? with
    | none => exact .read left (.refl within)
    | some b =>
        have lower : b.level < least := by
          obtain ⟨t, first, binds⟩ := Option.bind_eq_some_iff.mp told
          refine stops t first b.level ?_
          cases joins : t.token with
          | operator o => simp_all [Token.binding?, joinLevel?]
          | _ => simp [joins, Token.binding?] at binds
        simp only [if_pos lower]
        exact .read left (.refl within)
  · have next := ahead_next found
    simp only [found, List.head?_cons, Option.bind_some, Token.binding?, binds,
      if_neg (Nat.not_lt.mpr reached)]
    rw [plainExtend_operator _ left binds reached, bind_ok (advance_eq found), ← next]
    rw [found, List.length_cons, ← next] at room
    have right := deeper.binary c.next (goes_next found).within (by omega) b.rightLevel
    refine .after (goes_next found) (right.bind fun _ d way read => ?_)
    have shorter := length_lt_of_plainFrom read
    exact deeper.extended d way.within (by omega) least _

/-- A prefix operator is passed with the operand behind it. -/
theorem follows_unary (within : c.index ≤ tokens.items.length)
    (room : 4 * (c.ahead tokens).length + 2 ≤ depth + 1) :
    Follows tokens c (plainOperand tokens.stop (c.ahead tokens)) (unary tokens (depth + 1) c) := by
  rw [Walk.unary, bind_ok (peek_eq Token.front? within)]
  rcases plain_or_front (c.ahead tokens) with plain | ⟨o, build, position, others, found, stands⟩
  · rw [Option.bind_eq_none_iff.mpr plain]
    exact deeper.primary c within (by omega) plain
  · have next := ahead_next found
    rw [found, List.length_cons, ← next] at room
    simp only [found, List.head?_cons, Option.bind_some, Token.front?, stands]
    rw [plainOperand_front _ stands, bind_ok (advance_eq found), ← next]
    have operand := deeper.binary c.next (goes_next found).within (by omega) Operator.operandLevel
    exact .after (goes_next found) (operand.bind fun _ _ way _ => .read _ (.refl way.within))

/-- An operand without prefix operators is told by the token it starts with. -/
theorem follows_primary (within : c.index ≤ tokens.items.length)
    (room : 4 * (c.ahead tokens).length + 1 ≤ depth + 1)
    (plain : ∀ t ∈ (c.ahead tokens).head?, t.token.front? = none) :
    Follows tokens c (plainOperand tokens.stop (c.ahead tokens))
      (primary tokens (depth + 1) c) := by
  have refused : (∀ t ∈ (c.ahead tokens).head?, startsOperand t.token = false) →
      Follows tokens c (plainOperand tokens.stop (c.ahead tokens))
        (turnDown tokens noOperand c) := fun none_starts => by
    rw [plainOperand_refused _ none_starts]
    exact follows_turnDown within noOperand
  rw [Walk.primary, bind_ok (peek_eq some within)]
  cases found : c.ahead tokens with
  | nil =>
      rw [found] at refused
      exact refused (by simp)
  | cons t others =>
      have next := ahead_next found
      have way := goes_next found
      rw [found] at refused plain
      obtain ⟨token, position⟩ := t
      rw [found, List.length_cons, ← next] at room
      simp only [List.head?_cons, Option.bind_some]
      cases token with
      | number n =>
          simp only [plainOperand_number]
          rw [bind_ok (advance_eq found)]
          exact .passed _ found
      | text s =>
          simp only [plainOperand_text]
          rw [bind_ok (advance_eq found)]
          exact .passed _ found
      | name s =>
          simp only
          rw [bind_ok (advance_eq found)]
          by_cases bare : ∀ t ∈ (c.next.ahead tokens).head?, t.token ≠ .opening
          · rw [bind_ok (sees_of_other way.within bare)]
            rw [next] at bare
            rw [plainOperand_name _ _ _ bare]
            exact .passed _ found
          · obtain ⟨i, rest, opens⟩ := exists_cons_of_head bare
            rw [bind_ok (sees_of_found opens), ← next]
            exact .after (way.trans (goes_next opens))
              (deeper.call c.next i rest opens (by omega) s position)
      | opening =>
          simp only [plainOperand_group, ← plainFrom_zero]
          rw [bind_ok (advance_eq found), ← next]
          have inside := deeper.binary c.next way.within (by omega) 0
          exact .after way (inside.bind fun inner _ further _ => follows_close further.within inner)
      | operator o =>
          have stands : o.front? = none := by simpa [Token.front?] using plain
          exact refused (by simp [startsOperand, stands])
      | closing => exact refused (by simp [startsOperand])
      | comma => exact refused (by simp [startsOperand])

/-- A call is closed at once, or behind its arguments. -/
theorem follows_call {position : Nat} (opens : c.ahead tokens = ⟨.opening, position⟩ :: rest)
    (room : 4 * (c.ahead tokens).length + 1 ≤ depth + 1) (callee : String) (i : Nat) :
    Follows tokens c.next (plainOperand tokens.stop (⟨.name callee, i⟩ :: c.ahead tokens))
      (call tokens (depth + 1) callee c) := by
  have next := ahead_next opens
  have way := goes_next opens
  rw [Walk.call, bind_ok (sees_of_found opens)]
  simp only [if_true]
  rw [bind_ok (advance_eq opens)]
  rw [opens, List.length_cons, ← next] at room
  rw [opens, ← next]
  by_cases filled : ∀ t ∈ (c.next.ahead tokens).head?, t.token ≠ .closing
  · rw [bind_ok (sees_of_other way.within filled), plainOperand_call _ _ _ _ filled]
    have inside := deeper.arguments c.next way.within (by omega) callee
    exact inside.bind fun _ _ further _ => .read _ (.refl further.within)
  · obtain ⟨j, after, closes⟩ := exists_cons_of_head filled
    rw [bind_ok (sees_of_found closes), closes, plainOperand_emptyCall]
    simp only [if_true]
    rw [bind_ok (advance_eq closes)]
    exact .passed _ closes

/-- Arguments go on behind a comma and end at the closing bracket. -/
theorem follows_arguments (within : c.index ≤ tokens.items.length)
    (room : 4 * (c.ahead tokens).length + 4 ≤ depth + 1) (callee : String) :
    Follows tokens c (plainArguments tokens.stop callee (c.ahead tokens))
      (arguments tokens (depth + 1) callee c) := by
  rw [Walk.arguments, plainArguments_eq, ← plainFrom_zero]
  refine (deeper.binary c within (by omega) 0).bind fun first d way read => ?_
  have shorter := length_lt_of_plainFrom read
  by_cases ends : ∀ t ∈ (d.ahead tokens).head?, t.token ≠ .comma
  · rw [bind_ok (sees_of_other way.within ends)]
    simp only [Bool.false_eq_true, if_false]
    by_cases other : ∀ t ∈ (d.ahead tokens).head?, t.token ≠ .closing
    · rw [plainFurther_refused _ _ _ fun t h => ⟨ends t h, other t h⟩]
      exact follows_expect_of_other way.within other
    · obtain ⟨i, after, closes⟩ := exists_cons_of_head other
      rw [bind_ok (expect_of_found closes), closes]
      exact .passed _ closes
  · obtain ⟨i, others, goesOn⟩ := exists_cons_of_head ends
    have next := ahead_next goesOn
    rw [bind_ok (sees_of_found goesOn)]
    simp only [if_true]
    rw [bind_ok (advance_eq goesOn)]
    rw [goesOn, List.length_cons, ← next] at shorter
    rw [goesOn, plainFurther_comma, ← next]
    have more := deeper.arguments d.next (goes_next goesOn).within (by omega) callee
    exact .after (goes_next goesOn) (more.bind fun _ _ further _ => .read _ (.refl further.within))

end Deeper

/-- With room to nest as many calls as the tokens ahead can ask for, the walks follow the
readers. -/
theorem followReaders (tokens : Tokens) : ∀ depth, FollowReaders tokens depth
  | 0 =>
    { binary := fun _ _ room => absurd room (by omega)
      extended := fun _ _ room => absurd room (by omega)
      unary := fun _ _ room => absurd room (by omega)
      primary := fun _ _ room => absurd room (by omega)
      call := fun _ _ _ _ room => absurd room (by omega)
      arguments := fun _ _ room => absurd room (by omega) }
  | depth + 1 =>
    { binary := fun _ => follows_binary (followReaders tokens depth)
      extended := fun _ => follows_extended (followReaders tokens depth)
      unary := fun _ => follows_unary (followReaders tokens depth)
      primary := fun _ => follows_primary (followReaders tokens depth)
      call := fun _ _ _ => follows_call (followReaders tokens depth)
      arguments := fun _ => follows_arguments (followReaders tokens depth) }

end Cartography.Walk
