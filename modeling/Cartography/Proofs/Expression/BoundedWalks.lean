import Cartography.Proofs.Expression.FollowedReading
import Cartography.Proofs.Expression.ScanningWalk

/-!
# Walks that stay within their bounds

The scanner never leaves the text and the procedures of the parser never leave the tokens. All of
them come to an end, and what they come to is what scanning and reading come to.
-/

namespace Cartography.Walk

open Cursor Expression

variable {tokens : Tokens} {c d : Cursor}

/-! ### Staying within the text -/

/-- How the search for the next token comes out that stays within the text: it finds the end, or
turns the text down, or has moved on behind a token. -/
structure StaysInText (cs : List Char) (p : Nat) (outcome : Except Halt (Option Located) × Nat) :
    Prop where
  forward : p ≤ outcome.2
  within : outcome.2 ≤ cs.length
  progress : ∀ t, outcome.1 = .ok (some t) → p < outcome.2
  broken : ∀ h, outcome.1 = .error h → ∃ r, h = .turnedDown r

theorem FindsNext.staysInText {cs : List Char} {p : Nat}
    {outcome : Except Halt (Option Located) × Nat} (next : FindsNext cs p outcome)
    (within : p ≤ cs.length) : StaysInText cs p outcome := by
  cases next with
  | ended scanned => exact ⟨within, Nat.le_refl _, nofun, nofun⟩
  | found t low high scanned => exact ⟨Nat.le_of_lt low, high, fun _ _ => low, nofun⟩
  | turnedDown r low high scanned =>
      refine ⟨low, high, nofun, ?_⟩
      rintro _ ⟨⟩
      exact ⟨r, rfl⟩

/-- Going from token to token comes to what scanning comes to. -/
theorem exists_tokenize_ofText {source : String} {depth : Nat}
    (room : source.toList.length < depth) :
    ∃ d, tokenize source.toList depth 0 =
        (((Tokens.ofText source).map (·.items)).mapError .turnedDown, d) ∧
      d ≤ source.toList.length := by
  obtain ⟨d, walked, within⟩ := exists_tokenize (Nat.zero_le _)
    (show source.toList.length < 0 + depth by omega)
  refine ⟨d, ?_, within⟩
  rw [walked, List.drop_zero, Tokens.ofText]
  cases Tokens.scan 0 source.toList <;> rfl

/-! ### Staying within the tokens -/

/-- How a procedure comes out that stays within the tokens: it never breaks off but for what it
finds, and where it comes to a value it has passed a token at least. -/
structure StaysInTokens (tokens : Tokens) (c : Cursor) {α : Type}
    (outcome : Except Halt α × Cursor) : Prop where
  way : c.Goes tokens outcome.2
  progress : ∀ a, outcome.1 = .ok a → c.index < outcome.2.index
  broken : ∀ h, outcome.1 = .error h → h.IsRejection

theorem length_ahead (c : Cursor) (tokens : Tokens) :
    (c.ahead tokens).length = tokens.items.length - c.index :=
  List.length_drop

variable {α : Type}

/-- To break off because of what is found is to stay within the tokens. -/
theorem staysInTokens_of_isRejection {h : Halt} (rejected : h.IsRejection)
    (way : c.Goes tokens d) : StaysInTokens tokens c ((.error h, d) : Except Halt α × Cursor) where
  way := way
  progress := nofun
  broken := by
    rintro _ ⟨⟩
    exact rejected

namespace Follows

variable {x : Except Rejection (α × List Located)} {outcome : Except Halt α × Cursor}

/-- To follow a reader from further on is to stay within the tokens. -/
theorem staysInTokens_of_goes (follows : Follows tokens d x outcome) (way : c.Goes tokens d)
    (moved : c.index < d.index) : StaysInTokens tokens c outcome := by
  cases follows with
  | read a further =>
      exact ⟨way.trans further, fun _ _ => Nat.lt_of_lt_of_le moved further.forward, nofun⟩
  | turnedDown r further => exact staysInTokens_of_isRejection trivial (way.trans further)

/-- To follow a reader that reads something is to stay within the tokens. -/
theorem staysInTokens (follows : Follows tokens c x outcome)
    (shorter : ∀ a rest, x = .ok (a, rest) → rest.length < (c.ahead tokens).length) :
    StaysInTokens tokens c outcome := by
  cases follows with
  | @read a d way =>
      refine ⟨way, fun _ _ => ?_, nofun⟩
      have fewer := shorter a (d.ahead tokens) rfl
      rw [length_ahead, length_ahead] at fewer
      simp only
      omega
  | turnedDown r way => exact staysInTokens_of_isRejection trivial way

end Follows

section Deep

variable {depth : Nat} (within : c.index ≤ tokens.items.length)
  (deep : 4 * (tokens.items.length - c.index) + 4 ≤ depth)
include within deep

theorem binary_staysInTokens (least : Nat) :
    StaysInTokens tokens c (binary tokens depth least c) := by
  rw [← length_ahead] at deep
  have follows := (followReaders tokens depth).binary c within (by omega) least
  exact follows.staysInTokens fun _ _ => length_lt_of_plainFrom

theorem unary_staysInTokens : StaysInTokens tokens c (unary tokens depth c) := by
  rw [← length_ahead] at deep
  have follows := (followReaders tokens depth).unary c within (by omega)
  exact follows.staysInTokens fun _ _ => length_lt_of_plainOperand

/-- An operand that starts with a prefix operator is turned down by the procedure that knows of
none, so the reader of operands is not followed there. -/
theorem primary_staysInTokens : StaysInTokens tokens c (primary tokens depth c) := by
  rcases plain_or_front (c.ahead tokens) with plain | ⟨o, build, position, others, found, -⟩
  · rw [← length_ahead] at deep
    have follows := (followReaders tokens depth).primary c within (by omega) plain
    exact follows.staysInTokens fun _ _ => length_lt_of_plainOperand
  · obtain ⟨depth, rfl⟩ : ∃ less, depth = less + 1 := ⟨depth - 1, by omega⟩
    rw [primary_of_operator found]
    refine (follows_turnDown within noOperand).staysInTokens ?_
    rw [found]
    exact nofun

theorem call_staysInTokens (callee : String) :
    StaysInTokens tokens c (call tokens depth callee c) := by
  by_cases other : ∀ t ∈ (c.ahead tokens).head?, t.token ≠ .opening
  · obtain ⟨depth, rfl⟩ : ∃ less, depth = less + 1 := ⟨depth - 1, by omega⟩
    rw [Walk.call, bind_ok (sees_of_other within other)]
    exact staysInTokens_of_isRejection trivial (.refl within)
  · obtain ⟨position, rest, opens⟩ := exists_cons_of_head other
    rw [← length_ahead] at deep
    have follows := (followReaders tokens depth).call c position rest opens (by omega) callee 0
    exact follows.staysInTokens_of_goes (goes_next opens) (Nat.lt_succ_self _)

end Deep

/-- The whole walk comes to what the tokens write, or turns them down as they are, and has passed
each of them once at most. -/
theorem exists_parse {depth : Nat} (deep : 4 * tokens.items.length + 4 ≤ depth) :
    ∃ d, parse tokens depth ⟨0, 0⟩ = ((ofTokens tokens).mapError .turnedDown, d) ∧
      d.advances ≤ tokens.items.length := by
  obtain ⟨items, stop⟩ := tokens
  cases items with
  | nil => exact ⟨⟨0, 0⟩, rfl, Nat.le_refl _⟩
  | cons t others =>
      have follows := (followReaders ⟨t :: others, stop⟩ depth).binary ⟨0, 0⟩ (Nat.zero_le _)
        (by rw [length_ahead]; exact Nat.le_of_succ_le deep) 0
      have start : (⟨0, 0⟩ : Cursor).ahead ⟨t :: others, stop⟩ = t :: others := rfl
      rw [start, plainFrom_zero] at follows
      rw [parse, bind_ok (current_eq (Nat.zero_le _)), ofTokens_eq stop (List.cons_ne_nil _ _)]
      generalize came : binary _ depth 0 ⟨0, 0⟩ = outcome at follows
      generalize plainFrom stop 1 (t :: others) = result at follows
      simp only [start, List.head?_cons]
      cases follows with
      | turnedDown r way =>
          rw [bind_error came]
          exact ⟨_, rfl, way.advances_le⟩
      | @read tree d way =>
          rw [bind_ok came, bind_ok (current_eq way.within)]
          refine ⟨d, ?_, way.advances_le⟩
          simp only [Except.bind]
          cases d.ahead ⟨t :: others, stop⟩ <;> rfl

/-! ### Both together -/

/-- Wherever in a text the next token is looked for, the walk finds the end, or turns the text down,
or has moved on, and it is never beyond the end. Wherever among tokens one of the procedures is
called, it ends without having looked beyond them or stepped over their end, and it has passed one
of them at least if it comes to a value. The whole walks come to what scanning and reading come to,
and parsing makes no more advances than there are tokens. -/
theorem walks_stay_within :
    (∀ (source : String) (p depth : Nat), p ≤ source.toList.length →
      source.toList.length < p + depth →
        StaysInText source.toList p (nextToken source.toList depth p)) ∧
    (∀ (source : String) (depth : Nat), source.toList.length < depth →
      ∃ d, tokenize source.toList depth 0 =
          (((Tokens.ofText source).map (·.items)).mapError .turnedDown, d) ∧
        d ≤ source.toList.length) ∧
    (∀ (tokens : Tokens) (c : Cursor) (depth : Nat), c.index ≤ tokens.items.length →
      4 * (tokens.items.length - c.index) + 4 ≤ depth →
        (∀ least, StaysInTokens tokens c (binary tokens depth least c)) ∧
        StaysInTokens tokens c (unary tokens depth c) ∧
        StaysInTokens tokens c (primary tokens depth c) ∧
        ∀ callee, StaysInTokens tokens c (call tokens depth callee c)) ∧
    ∀ (tokens : Tokens) (depth : Nat), 4 * tokens.items.length + 4 ≤ depth →
      ∃ d, parse tokens depth ⟨0, 0⟩ = ((ofTokens tokens).mapError .turnedDown, d) ∧
        d.advances ≤ tokens.items.length := by
  refine ⟨fun _ _ _ within room => (findsNext within room).staysInText within,
    fun _ _ room => exists_tokenize_ofText room, fun tokens c depth within deep => ?_,
    fun _ _ deep => exists_parse deep⟩
  exact ⟨binary_staysInTokens within deep, unary_staysInTokens within deep,
    primary_staysInTokens within deep, call_staysInTokens within deep⟩

/-- A text that ends behind an operator: the operator is the next token behind the number, and the
call for its right-hand side turns the tokens down at their end, after two advances. -/
theorem walks_stay_within_behind_operator :
    StaysInText "1 +".toList 1 (nextToken "1 +".toList 3 1) ∧
    nextToken "1 +".toList 3 1 = (.ok (some ⟨.operator .plus, 2⟩), 3) ∧
    (∃ d, tokenize "1 +".toList 4 0 =
        (((Tokens.ofText "1 +").map (·.items)).mapError .turnedDown, d) ∧ d ≤ 3) ∧
    StaysInTokens ⟨[⟨.number (.integer 1), 0⟩, ⟨.operator .plus, 2⟩], 3⟩ ⟨2, 2⟩
      (primary ⟨[⟨.number (.integer 1), 0⟩, ⟨.operator .plus, 2⟩], 3⟩ 4 ⟨2, 2⟩) ∧
    (∃ d, parse ⟨[⟨.number (.integer 1), 0⟩, ⟨.operator .plus, 2⟩], 3⟩ 12 ⟨0, 0⟩ =
        ((ofTokens ⟨[⟨.number (.integer 1), 0⟩, ⟨.operator .plus, 2⟩], 3⟩).mapError
          .turnedDown, d) ∧ d.advances ≤ 2) ∧
    parse ⟨[⟨.number (.integer 1), 0⟩, ⟨.operator .plus, 2⟩], 3⟩ 12 ⟨0, 0⟩ =
      (.error (.turnedDown (.faulty .unexpectedEnd 3)), ⟨2, 2⟩) :=
  ⟨walks_stay_within.1 "1 +" 1 3 (by decide) (by decide), by rfl,
    walks_stay_within.2.1 "1 +" 4 (by decide),
    (walks_stay_within.2.2.1 _ ⟨2, 2⟩ 4 (by decide) (by decide)).2.2.1,
    walks_stay_within.2.2.2 _ 12 (by decide), by rfl⟩

end Cartography.Walk
