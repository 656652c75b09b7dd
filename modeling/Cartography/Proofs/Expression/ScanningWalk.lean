import Cartography.Proofs.Expression.MaximalMunch
import Cartography.Proofs.Expression.Walk

/-!
# Walking along a text

The scanner as a walk from place to place of a text. It looks at single characters, and it finds
numerals, names and operators in front of what is left of the text.
-/

namespace Cartography.Walk

open Lexeme

section Walks

variable (cs : List Char)

/-- Whether no more than so many characters are left. -/
def ends (k : Nat) : Walk Nat Bool := fun p => (.ok (decide (cs.length ≤ p + k)), p)

/-- The character behind so many others. -/
def charAt (k : Nat) : Walk Nat Char := fun p =>
  match cs[p + k]? with
  | some c => (.ok c, p)
  | none => (.error .beyondEnd, p)

/-- So many characters are passed. -/
def pass (k : Nat) : Walk Nat Unit := fun p =>
  if p + k ≤ cs.length then (.ok (), p + k) else (.error .overEnd, p)

/-- All blanks are passed. -/
def skip : Nat → Walk Nat Unit
  | 0 => halt .tooDeep
  | depth + 1 => do
      if ← ends cs 0 then return ()
      else if Text.isBlank (← charAt cs 0) then do
        pass cs 1
        skip depth
      else return ()

/-- A quoted text that stands at `start` is passed from behind its opening quote. -/
def quotedRest (quote : Char) (start : Nat) : Nat → Walk Nat (List Char)
  | 0 => halt .tooDeep
  | depth + 1 => do
      if ← ends cs 0 then halt (.turnedDown (.faulty .unterminatedText start))
      else do
        let c ← charAt cs 0
        if c = quote then do
          pass cs 1
          return []
        else if c = '\\' ∧ ¬ (← ends cs 1) then do
          let escaped ← charAt cs 1
          pass cs 2
          let inner ← quotedRest quote start depth
          return unescape escaped :: inner
        else do
          pass cs 1
          let inner ← quotedRest quote start depth
          return c :: inner

/-- The token that starts with the next character is passed. -/
def lexeme (depth : Nat) : Walk Nat Located := do
  let start ← here
  let c ← charAt cs 0
  match punctuation? c with
  | some token => do
      pass cs 1
      return ⟨token, start⟩
  | none =>
      if isQuote c then do
        pass cs 1
        let inner ← quotedRest cs c start depth
        return ⟨.text (String.ofList inner), start⟩
      else
        match Numeral.read? (cs.drop start) with
        | some numeral => do
            pass cs numeral.width
            match numeral.value? with
            | some n => return ⟨.number n, start⟩
            | none => halt (.turnedDown (.oversizedInteger numeral.whole.length))
        | none =>
            if isNameStart c then do
              let others := (cs.drop (start + 1)).takeWhile isNamePart
              pass cs (others.length + 1)
              return ⟨.name (String.ofList (c :: others)), start⟩
            else
              match operator? (cs.drop start) with
              | some o => do
                  pass cs o.symbol.length
                  return ⟨.operator o, start⟩
              | none => halt (.turnedDown (.faulty (.unexpectedCharacter c) start))

/-- The next token is passed, if there is one. -/
def nextToken (depth : Nat) : Walk Nat (Option Located) := do
  skip cs depth
  if ← ends cs 0 then return none
  else do
    let t ← lexeme cs depth
    return some t

/-- All tokens are passed. -/
def tokenize : Nat → Walk Nat (List Located)
  | 0 => halt .tooDeep
  | depth + 1 => do
      match ← nextToken cs (depth + 1) with
      | none => return []
      | some t => do
          let others ← tokenize depth
          return t :: others

end Walks

variable {cs rest : List Char} {c : Char} {p depth : Nat}

/-! ### What is left of a text -/

theorem lt_length_of_drop (ahead : cs.drop p = c :: rest) : p < cs.length := by
  have filled : (cs.drop p).length = rest.length + 1 := by rw [ahead]; rfl
  rw [List.length_drop] at filled
  omega

theorem drop_succ (ahead : cs.drop p = c :: rest) : cs.drop (p + 1) = rest := by
  rw [← List.drop_drop, ahead]
  rfl

/-- What stands in front of the rest of a text does not go beyond its end. -/
theorem add_length_le {w : List Char} (within : p ≤ cs.length) (front : w <+: cs.drop p) :
    p + w.length ≤ cs.length := by
  have shorter := front.length_le
  rw [List.length_drop] at shorter
  omega

theorem ends_eq (k p : Nat) : ends cs k p = (.ok (decide (cs.length ≤ p + k)), p) := rfl

theorem ends_of_nil (ahead : cs.drop p = []) : ends cs 0 p = (.ok true, p) := by
  have done := List.drop_eq_nil_iff.mp ahead
  simp [ends, done]

theorem ends_of_cons (ahead : cs.drop p = c :: rest) : ends cs 0 p = (.ok false, p) := by
  have more := lt_length_of_drop ahead
  simp [ends, more]

theorem charAt_of_drop {k : Nat} (ahead : cs.drop (p + k) = c :: rest) :
    charAt cs k p = (.ok c, p) := by
  rw [charAt, Tokens.getElem?_of_drop ahead]

theorem pass_eq {k : Nat} (room : p + k ≤ cs.length) : pass cs k p = (.ok (), p + k) :=
  if_pos room

/-! ### Blanks -/

/-- Skipping passes blanks only, and all of them. -/
theorem exists_skip (within : p ≤ cs.length) (room : cs.length < p + depth) :
    ∃ d, skip cs depth p = (.ok (), d) ∧ p ≤ d ∧ d ≤ cs.length ∧
      Tokens.scan p (cs.drop p) = Tokens.scan d (cs.drop d) ∧
      ∀ c ∈ (cs.drop d).head?, Text.isBlank c = false := by
  induction depth generalizing p with
  | zero => omega
  | succ depth ih =>
      cases ahead : cs.drop p with
      | nil =>
          refine ⟨p, ?_, Nat.le_refl _, within, ?_, ?_⟩
          · rw [skip, bind_ok (ends_of_nil ahead)]
            rfl
          · rw [ahead]
          · simp [ahead]
      | cons c rest =>
          have before := lt_length_of_drop ahead
          rw [skip, bind_ok (ends_of_cons ahead)]
          simp only [Bool.false_eq_true, if_false]
          rw [bind_ok (charAt_of_drop (k := 0) ahead)]
          cases shown : Text.isBlank c with
          | false =>
              refine ⟨p, rfl, Nat.le_refl _, within, ?_, ?_⟩
              · rw [ahead]
              · simpa [ahead] using shown
          | true =>
              simp only [if_true]
              rw [bind_ok (pass_eq (by omega)), Tokens.scan_blank _ shown, ← drop_succ ahead]
              obtain ⟨d, skipped, low, high, same, stands⟩ := ih before (by omega)
              exact ⟨d, skipped, by omega, high, same, stands⟩

/-! ### Quoted texts -/

/-- A quoted text that is found does not go beyond the end of the text. -/
theorem add_width_le_of_body? {quote : Char} {inner : List Char} {width : Nat}
    (within : p ≤ cs.length) (read : body? quote (cs.drop p) = some (inner, width)) :
    p + width ≤ cs.length := by
  obtain ⟨raw, more, split, rfl, -⟩ := exists_writesBody read
  exact add_length_le within ⟨more, split.symm⟩

/-- Where a quoted text that stands at `start` has come to from `p` on: behind its closing quote, or
to the end of the text. -/
def quotedOutcome (cs : List Char) (start p : Nat) :
    Option (List Char × Nat) → Except Halt (List Char) × Nat
  | some (inner, width) => (.ok inner, p + width)
  | none => (.error (.turnedDown (.faulty .unterminatedText start)), cs.length)

theorem quotedOutcome_further {walk : Walk Nat (List Char)} {start k : Nat}
    {found : Option (List Char × Nat)}
    (first : walk (p + k) = quotedOutcome cs start (p + k) found) (c : Char) :
    (do let inner ← walk; return c :: inner : Walk Nat (List Char)) (p + k) =
      quotedOutcome cs start p (found.map fun (inner, width) => (c :: inner, width + k)) := by
  cases found with
  | none => exact bind_error first
  | some read =>
      obtain ⟨inner, width⟩ := read
      rw [quotedOutcome, Nat.add_right_comm, Nat.add_assoc] at first
      exact bind_ok first

/-- A quoted text is passed up to its closing quote. -/
theorem quotedRest_eq (quote : Char) (start : Nat) (within : p ≤ cs.length)
    (room : cs.length < p + depth) :
    quotedRest cs quote start depth p = quotedOutcome cs start p (body? quote (cs.drop p)) := by
  induction depth generalizing p with
  | zero => omega
  | succ depth ih =>
      rw [quotedRest]
      cases ahead : cs.drop p with
      | nil =>
          have done : p = cs.length := Nat.le_antisymm within (List.drop_eq_nil_iff.mp ahead)
          rw [bind_ok (ends_of_nil ahead), body?, done]
          rfl
      | cons c rest =>
          have before := lt_length_of_drop ahead
          have next := drop_succ ahead
          have further := ih before (by omega)
          rw [bind_ok (ends_of_cons ahead)]
          simp only [Bool.false_eq_true, if_false]
          rw [bind_ok (charAt_of_drop (k := 0) ahead), body?.eq_def]
          simp only
          by_cases closes : c = quote
          · simp only [if_pos closes]
            exact bind_ok (pass_eq before)
          by_cases hides : c = '\\'
          · cases rest with
            | nil =>
                -- a backslash at the very end hides nothing, and the text is not closed either way
                have last : cs.length ≤ p + 1 := List.drop_eq_nil_iff.mp next
                simp only [if_neg closes, if_pos hides]
                rw [bind_ok (ends_eq 1 p), if_neg (by simp [last]), bind_ok (pass_eq before)]
                rw [next] at further
                exact quotedOutcome_further (k := 1) further c
            | cons escaped others =>
                have behind := lt_length_of_drop next
                have more : ¬ cs.length ≤ p + 1 := Nat.not_le.mpr behind
                simp only [if_neg closes, if_pos hides]
                rw [bind_ok (ends_eq 1 p), if_pos (by simp [hides, more]),
                  bind_ok (charAt_of_drop next), bind_ok (pass_eq behind), ← drop_succ next]
                exact quotedOutcome_further (ih behind (by omega)) (unescape escaped)
          · simp only [if_neg closes, if_neg hides]
            rw [bind_ok (ends_eq 1 p)]
            simp only [hides, false_and, if_false]
            rw [bind_ok (pass_eq before), ← next]
            exact quotedOutcome_further (k := 1) further c

/-! ### Tokens -/

/-- A walk from a place comes out as the reader of the token that starts there does. -/
inductive FollowsLexeme (cs : List Char) (p : Nat) :
    Except Rejection Lexeme → Except Halt Located × Nat → Prop
  | read (l : Lexeme) (room : p + l.width ≤ cs.length) :
      FollowsLexeme cs p (.ok l) (.ok ⟨l.token, p⟩, p + l.width)
  | turnedDown (r : Rejection) {d : Nat} (low : p ≤ d) (high : d ≤ cs.length) :
      FollowsLexeme cs p (.error r) (.error (.turnedDown r), d)

theorem FollowsLexeme.passed {token : Token} {width : Nat} {filled : 0 < width}
    (room : p + width ≤ cs.length) :
    FollowsLexeme cs p (.ok ⟨token, width, filled⟩)
      ((do pass cs width; return ⟨token, p⟩ : Walk Nat Located) p) := by
  rw [bind_ok (pass_eq room)]
  exact .read _ room

/-- A numeral that is found does not go beyond the end of the text. -/
theorem add_width_le_of_read? {n : Numeral} (within : p ≤ cs.length)
    (read : Numeral.read? (cs.drop p) = some n) : p + n.width ≤ cs.length := by
  obtain ⟨w, more, split, writes⟩ := Numeral.exists_writes_of_read? read
  rw [← Numeral.length_of_writes writes]
  exact add_length_le within ⟨more, split.symm⟩

/-- The walk along a token passes what the reader takes, and breaks off where the reader turns the
text down: at once, or at the end of the text, or behind a numeral that has no value. -/
theorem follows_lexeme (ahead : cs.drop p = c :: rest) (room : cs.length < p + depth) :
    FollowsLexeme cs p (read p c rest) (lexeme cs depth p) := by
  have before := lt_length_of_drop ahead
  have next := drop_succ ahead
  have within := Nat.le_of_lt before
  rw [lexeme, bind_here, bind_ok (charAt_of_drop (k := 0) ahead), ahead, next]
  fun_cases read p c rest with
  | case1 token found =>
      simp only [found]
      exact .passed before
  | case2 unmarked opens inner width body =>
      have passed : quotedRest cs c p depth (p + 1) = _ := quotedRest_eq c p before (by omega)
      rw [next, body] at passed
      have inside : p + 1 + width ≤ cs.length :=
        add_width_le_of_body? before (next.symm ▸ body)
      have reached : p + 1 + width = p + (width + 1) := by omega
      rw [reached] at inside
      simp only [unmarked, opens, if_true]
      rw [bind_ok (pass_eq before), bind_ok passed, reached]
      exact .read _ inside
  | case3 unmarked opens missing =>
      have passed : quotedRest cs c p depth (p + 1) = _ := quotedRest_eq c p before (by omega)
      rw [next, missing] at passed
      simp only [unmarked, opens, if_true]
      rw [bind_ok (pass_eq before), bind_error passed]
      exact .turnedDown _ within (Nat.le_refl _)
  | case4 unmarked unquoted n read x value =>
      simp only [unmarked, unquoted, read, value, if_false, Bool.false_eq_true]
      exact .passed (add_width_le_of_read? within (ahead.symm ▸ read))
  | case5 unmarked unquoted n read missing =>
      have inside := add_width_le_of_read? within (ahead.symm ▸ read)
      simp only [unmarked, unquoted, read, missing, if_false, Bool.false_eq_true]
      rw [bind_ok (pass_eq inside)]
      exact .turnedDown _ (Nat.le_add_right _ _) inside
  | case6 unmarked unquoted missing starts =>
      have named : c :: rest.takeWhile isNamePart <+: cs.drop p := by
        rw [ahead]
        exact List.cons_prefix_cons.mpr ⟨rfl, List.takeWhile_prefix _⟩
      simp only [unmarked, unquoted, missing, starts, if_false, if_true, Bool.false_eq_true]
      exact .passed (add_length_le within named)
  | case7 unmarked unquoted missing unstarted o found =>
      have front : o.symbol.toList <+: cs.drop p := ahead ▸ (operator?_eq_some found).1
      simp only [unmarked, unquoted, missing, unstarted, found, if_false, Bool.false_eq_true]
      refine .passed ?_
      rw [← String.length_toList]
      exact add_length_le within front
  | case8 unmarked unquoted unread unstarted absent =>
      simp only [unmarked, unquoted, unread, unstarted, absent, if_false, Bool.false_eq_true]
      exact .turnedDown _ (Nat.le_refl _) within

/-- What comes of going for the next token: the end of the text where there is none, or a place
behind the token, or a place where the text is turned down. -/
inductive FindsNext (cs : List Char) (p : Nat) : Except Halt (Option Located) × Nat → Prop
  | ended (scanned : Tokens.scan p (cs.drop p) = .ok []) : FindsNext cs p (.ok none, cs.length)
  | found (t : Located) {d : Nat} (low : p < d) (high : d ≤ cs.length)
      (scanned : Tokens.scan p (cs.drop p) = (Tokens.scan d (cs.drop d)).map (t :: ·)) :
      FindsNext cs p (.ok (some t), d)
  | turnedDown (r : Rejection) {d : Nat} (low : p ≤ d) (high : d ≤ cs.length)
      (scanned : Tokens.scan p (cs.drop p) = .error r) :
      FindsNext cs p (.error (.turnedDown r), d)

/-- Going for the next token finds what scanning finds first. -/
theorem findsNext (within : p ≤ cs.length) (room : cs.length < p + depth) :
    FindsNext cs p (nextToken cs depth p) := by
  obtain ⟨d, skipped, low, high, same, stands⟩ := exists_skip within room
  rw [nextToken, bind_ok skipped]
  cases ahead : cs.drop d with
  | nil =>
      have done : d = cs.length := Nat.le_antisymm high (List.drop_eq_nil_iff.mp ahead)
      rw [bind_ok (ends_of_nil ahead), done]
      refine .ended ?_
      rw [same, ahead, Tokens.scan_nil]
  | cons c rest =>
      have shown : Text.isBlank c = false := stands c (by rw [ahead]; rfl)
      have enough : cs.length < d + depth := by omega
      have follows := follows_lexeme ahead enough
      rw [bind_ok (ends_of_cons ahead)]
      simp only [Bool.false_eq_true, if_false]
      generalize came : lexeme cs depth d = outcome at follows
      cases read : Lexeme.read d c rest with
      | error r =>
          rw [read] at follows
          cases follows with
          | turnedDown _ further inside =>
              rw [bind_error came]
              refine .turnedDown r (Nat.le_trans low further) inside ?_
              rw [same, ahead, Tokens.scan_shown d shown, read]
              rfl
      | ok l =>
          rw [read] at follows
          cases follows with
          | read _ inside =>
              have filled := l.width_pos
              rw [bind_ok came]
              refine .found _ (by omega) inside ?_
              rw [same, ahead, Tokens.scan_shown d shown, read, ← List.drop_drop, ahead]
              rfl

/-- Going from token to token scans the text. -/
theorem exists_tokenize (within : p ≤ cs.length) (room : cs.length < p + depth) :
    ∃ d, tokenize cs depth p = ((Tokens.scan p (cs.drop p)).mapError .turnedDown, d) ∧
      d ≤ cs.length := by
  induction depth generalizing p with
  | zero => omega
  | succ depth ih =>
      have next := findsNext within room
      rw [tokenize]
      generalize came : nextToken cs (depth + 1) p = outcome at next
      cases next with
      | ended scanned =>
          rw [bind_ok came, scanned]
          exact ⟨_, rfl, Nat.le_refl _⟩
      | turnedDown r low high scanned =>
          rw [bind_error came, scanned]
          exact ⟨_, rfl, high⟩
      | found t low high scanned =>
          obtain ⟨e, walked, inside⟩ := ih high (by omega)
          rw [bind_ok came, scanned]
          simp only
          refine ⟨e, ?_, inside⟩
          generalize Tokens.scan _ _ = result at walked
          cases result with
          | error r => exact bind_error walked
          | ok others => exact bind_ok walked

end Cartography.Walk
