import Cartography.Proofs.Expression.MaximalMunch

/-!
# Texts side by side

A blank, a bracket or a comma is part of no token that starts in front of it, unless that token is
a quoted text. So where a text that has tokens is followed by one of them, its tokens are read as
they are without it, at whatever place the text stands.

## Implementation notes

That tokens stay the longest ones is shown class by class: quoted texts end at their quote, and no
other class has such a character behind its first.
-/

namespace Cartography

namespace Lexeme

/-- Whether a character ends every token in front of it that is not a quoted text. -/
def isBoundary (c : Char) : Bool := Text.isBlank c || (punctuation? c).isSome

/-! ### Characters inside tokens -/

theorem isBoundary_of_isDigit {c : Char} (h : Text.isDigit c = true) : isBoundary c = false := by
  have unmarked := (neither_mark_nor_quote h (by decide)).1
  simp [isBoundary, isBlank_of_isDigit h, unmarked]

theorem isBoundary_of_isNamePart {c : Char} (h : isNamePart c = true) : isBoundary c = false := by
  have unmarked := (neither_mark_nor_quote h (by decide)).1
  rcases Bool.or_eq_true_iff.mp h with starts | digit
  · simp [isBoundary, isBlank_of_isNameStart starts, unmarked]
  · have bounds : 0x30 ≤ c.toNat ∧ c.toNat ≤ 0x39 := by
      simp only [Text.isAsciiDigit, Bool.and_eq_true, decide_eq_true_eq, Char.le_def,
        UInt32.le_iff_toNat_le] at digit
      exact digit
    simp [isBoundary, Text.isBlank, Text.isSpace, unmarked]
    omega

/-- No character of a numeral ends tokens. -/
theorem isBoundary_of_writes {w : List Char} {n : Numeral} (h : Numeral.Writes w n) :
    ∀ c ∈ w, isBoundary c = false := by
  have digits {ds : List Char} (all : Numeral.AllDigits ds) : ∀ c ∈ ds, isBoundary c = false :=
    fun c hc => isBoundary_of_isDigit (all c hc)
  cases h with
  | parts all fraction exponent _ =>
      refine List.forall_mem_append.mpr ⟨digits all, List.forall_mem_append.mpr ⟨?_, ?_⟩⟩
      · cases fraction with
        | absent => exact List.forall_mem_nil _
        | present behind => exact List.forall_mem_cons.mpr ⟨by decide, digits behind⟩
      · cases exponent with
        | absent => exact List.forall_mem_nil _
        | @present mark sign _ marked signed _ behind =>
            refine List.forall_mem_cons.mpr ⟨?_, List.forall_mem_append.mpr ⟨?_, digits behind⟩⟩
            · rcases marked with rfl | rfl <;> decide
            · intro c hc
              rcases signed c (Option.mem_toList.mp hc) with rfl | rfl <;> decide

/-- Behind its first character, no token but a quoted text has one that ends tokens. -/
theorem isBoundary_of_spells {c : Char} {others : List Char} {token : Token}
    (h : Spells (c :: others) token) (unquoted : leadOf token ≠ .quote) :
    ∀ d ∈ others, isBoundary d = false := by
  generalize written : c :: others = w at h
  cases h with
  | punctuation found =>
      obtain ⟨-, rfl⟩ := List.cons.inj written
      exact List.forall_mem_nil _
  | quoted opens body => exact absurd rfl unquoted
  | numeral writes =>
      subst written
      exact (List.forall_mem_cons.mp (isBoundary_of_writes writes)).2
  | name starts parts =>
      obtain ⟨-, rfl⟩ := List.cons.inj written
      exact fun d hd => isBoundary_of_isNamePart (parts d hd)
  | operator o symbol =>
      have behind : o.symbol.toList.tail.all (fun d => !isBoundary d) = true := by
        cases o <;> decide
      obtain rfl : others = o.symbol.toList.tail := congrArg List.tail (written.trans symbol)
      simpa using behind

/-! ### Longest tokens -/

/-- A longest token that is not a quoted text stays so in front of what ends tokens. -/
theorem Longest.append_of_unquoted {cs w : List Char} {token : Token} (h : Longest cs w token)
    (unquoted : leadOf token ≠ .quote) {d : Char} (ends : isBoundary d = true)
    (more : List Char) : Longest (cs ++ d :: more) w token := by
  have front := h.front.trans (List.prefix_append cs (d :: more))
  refine ⟨h.spells, front, ?_⟩
  intro w' token' h' front'
  rcases Nat.lt_or_ge cs.length w'.length with beyond | within
  · -- a longer token would have the character that ends tokens
    exfalso
    have sameLead := same_lead h.spells front h' front'
    have reached : cs ++ [d] <+: w' := by
      have here : cs ++ [d] <+: cs ++ d :: more := by simp
      refine List.prefix_of_prefix_length_le here front' ?_
      rw [List.length_append]
      exact beyond
    obtain ⟨tail, rfl⟩ := reached
    obtain ⟨c, others, rfl⟩ := List.exists_cons_of_ne_nil (ne_nil_of_spells h.spells)
    obtain ⟨following, rfl⟩ := h.front
    have inside := isBoundary_of_spells h' (sameLead ▸ unquoted) d (by simp)
    rw [inside] at ends
    cases ends
  · have front'' :=
      List.prefix_of_prefix_length_le front' (List.prefix_append cs (d :: more)) within
    exact h.longest w' token' h' front''

/-- A longest token stays so in front of what ends tokens. -/
theorem Longest.append {cs w : List Char} {token : Token} (h : Longest cs w token) {d : Char}
    (ends : isBoundary d = true) (more : List Char) : Longest (cs ++ d :: more) w token := by
  by_cases unquoted : leadOf token ≠ .quote
  · exact h.append_of_unquoted unquoted ends more
  · obtain ⟨spells, ⟨following, rfl⟩, -⟩ := h
    cases spells with
    | quoted opens body =>
        have longest := longest_quoted opens body (following ++ d :: more)
        rwa [← List.append_assoc, ← List.cons_append] at longest
    | punctuation found => simp [leadOf_of_punctuation? found] at unquoted
    | _ => simp [leadOf] at unquoted

end Lexeme

/-- A token further on. -/
def Located.later (distance : Nat) (t : Located) : Located := ⟨t.token, t.position + distance⟩

@[simp] theorem Located.token_later (distance : Nat) (t : Located) :
    (t.later distance).token = t.token := rfl

namespace Tokens

open Lexeme

/-- What is scanned from a character that is not blank starts with the longest token there. -/
theorem exists_longest_of_scan {position : Nat} {c : Char} {rest : List Char}
    {items : List Located} (read : scan position (c :: rest) = .ok items)
    (shown : Text.isBlank c = false) :
    ∃ w token more, c :: rest = w ++ more ∧ Longest (w ++ more) w token ∧ ¬ Oversized w := by
  have outcome := readsAs position c rest
  rw [scan_shown position shown] at read
  cases found : Lexeme.read position c rest with
  | error r =>
      rw [found] at read
      cases read
  | ok lexeme =>
      rw [found] at outcome
      cases outcome with
      | @token w _ longest _ small =>
          obtain ⟨more, split⟩ := longest.front
          rw [← split] at longest
          exact ⟨w, lexeme.token, more, split.symm, longest, small⟩

/-- The tokens of a text are the same further on and in front of what ends tokens. -/
theorem scan_append {cs : List Char} {position : Nat} {items : List Located}
    (read : scan position cs = .ok items) (distance : Nat) {d : Char}
    (ends : isBoundary d = true) (more : List Char) :
    scan (position + distance) (cs ++ d :: more) =
      (scan (position + distance + cs.length) (d :: more)).map
        (items.map (·.later distance) ++ ·) := by
  induction h : cs.length using Nat.strongRecOn generalizing cs position items with
  | ind n ih =>
      cases cs with
      | nil =>
          rw [scan_nil] at read
          obtain rfl := Except.ok.inj read
          subst h
          show scan _ _ = (scan _ _).map id
          rw [Except.map_id]
          rfl
      | cons c rest =>
          cases shown : Text.isBlank c with
          | true =>
              rw [scan_blank position shown] at read
              have following := ih rest.length (by simp [← h]) read rfl
              rw [List.cons_append, scan_blank _ shown, Nat.add_right_comm, following, ← h,
                List.length_cons, Nat.add_right_comm position 1, Nat.add_assoc _ 1,
                Nat.add_comm 1]
          | false =>
              obtain ⟨w, token, behind, split, longest, small⟩ := exists_longest_of_scan read shown
              rw [split] at read h ⊢
              have filled : 0 < w.length :=
                List.length_pos_iff.mpr (ne_nil_of_spells longest.spells)
              have longest' := longest.append ends more
              rw [List.append_assoc] at longest' ⊢
              rw [scan_longest longest small] at read
              cases readBehind : scan (position + w.length) behind with
              | error r =>
                  rw [readBehind] at read
                  cases read
              | ok others =>
                  rw [readBehind] at read
                  obtain rfl := Except.ok.inj read
                  rw [List.length_append] at h
                  have following := ih behind.length (by omega) readBehind rfl
                  rw [scan_longest longest' small, Nat.add_right_comm, following, ← h,
                    Nat.add_right_comm position w.length, Nat.add_assoc _ w.length]
                  cases scan (position + distance + (w.length + behind.length)) (d :: more) <;> rfl

end Tokens

end Cartography
