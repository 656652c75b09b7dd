import Cartography.Proofs.Expression.Compilation
import Cartography.Proofs.Expression.Places
import Cartography.Proofs.Expression.SideBySide

/-!
# Blanks between tokens

Blanks can be put into a text wherever no token is broken up. All tokens in front of them stay as
they are and those behind them move on, so that the text compiles to the same expression as without
the blanks, or is turned down for the same reason at the place that moved along.

## Implementation notes

A text is cut where the blanks go in. That both pieces have by themselves the tokens which they have
in the text is seen from its tiling, and for the piece in front it is seen once more that a longest
token stays so in front of a blank (`Tokens.scan_append`).
-/

namespace Cartography

/-- Where a place comes to when a gap is made: what stands behind it moves on by its width. -/
def spread (place width position : Nat) : Nat :=
  if position < place then position else position + width

theorem spread_of_lt {place position : Nat} (width : Nat) (before : position < place) :
    spread place width position = position := if_pos before

theorem spread_of_le {place position : Nat} (width : Nat) (behind : place ≤ position) :
    spread place width position = position + width := if_neg (Nat.not_lt.mpr behind)

namespace Tokens

open Lexeme

/-- A place of a text that is inside none of its tokens. -/
def Between (cs : List Char) (place : Nat) : Prop :=
  ∀ spans, Tiles cs 0 cs.length spans → ∀ s ∈ spans, s.stop ≤ place ∨ place ≤ s.start

/-! ### Cutting a tiling -/

namespace Tiles

variable {cs : List Char} {start finish place : Nat} {front back spans : List Span}

/-- The spans of a stretch that end in front of a place tile the stretch as far as there. -/
theorem in_front (h : Tiles cs start finish (front ++ back)) (room : place ≤ finish)
    (before : ∀ s ∈ front, s.stop ≤ place) (behind : ∀ s ∈ back, place ≤ s.start) :
    Tiles cs start place front where
  ordered := (List.pairwise_append.mp h.ordered).1
  inside s hs := ⟨(h.inside s (List.mem_append_left back hs)).1, before s hs⟩
  covered i c low high found shown := by
    obtain ⟨s, hs, le, lt⟩ := h.covered i c low (Nat.lt_of_lt_of_le high room) found shown
    rcases List.mem_append.mp hs with hs | hs
    · exact ⟨s, hs, le, lt⟩
    · exact absurd (Nat.le_trans (behind s hs) le) (Nat.not_le_of_lt high)
  longest s hs := h.longest s (List.mem_append_left back hs)

/-- The spans of a stretch that start behind a place tile the stretch from there on. -/
theorem in_back (h : Tiles cs start finish (front ++ back)) (room : start ≤ place)
    (before : ∀ s ∈ front, s.stop ≤ place) (behind : ∀ s ∈ back, place ≤ s.start) :
    Tiles cs place finish back where
  ordered := (List.pairwise_append.mp h.ordered).2.1
  inside s hs := ⟨behind s hs, (h.inside s (List.mem_append_right front hs)).2⟩
  covered i c low high found shown := by
    obtain ⟨s, hs, le, lt⟩ := h.covered i c (Nat.le_trans room low) high found shown
    rcases List.mem_append.mp hs with hs | hs
    · exact absurd (Nat.le_trans (before s hs) low) (Nat.not_le_of_lt lt)
    · exact ⟨s, hs, le, lt⟩
  longest s hs := h.longest s (List.mem_append_right front hs)

/-- Spans none of which a place breaks up are those in front of the place and those behind it. -/
theorem exists_cut (h : Tiles cs start finish spans)
    (between : ∀ s ∈ spans, s.stop ≤ place ∨ place ≤ s.start) :
    ∃ front back, spans = front ++ back ∧ (∀ s ∈ front, s.stop ≤ place) ∧
      ∀ s ∈ back, place ≤ s.start := by
  induction spans generalizing start with
  | nil => exact ⟨[], [], rfl, List.forall_mem_nil _, List.forall_mem_nil _⟩
  | cons s more ih =>
      rcases between s (List.mem_cons_self ..) with before | behind
      · obtain ⟨front, back, rfl, fronts, backs⟩ :=
          ih h.tail fun t ht => between t (List.mem_cons_of_mem s ht)
        exact ⟨s :: front, back, rfl, List.forall_mem_cons.mpr ⟨before, fronts⟩, backs⟩
      · refine ⟨[], s :: more, rfl, List.forall_mem_nil _, fun t ht => ?_⟩
        exact Nat.le_trans behind (h.first_le t ht)

end Tiles

/-- A text that is cut between tokens: each piece has by itself the tokens it has in the text. -/
theorem exists_scan_of_between {front back : List Char} {items : List Located}
    (read : scan 0 (front ++ back) = .ok items) (between : Between (front ++ back) front.length) :
    ∃ before behind, items = before ++ behind ∧ scan 0 front = .ok before ∧
      scan front.length back = .ok behind ∧ (∀ t ∈ before, t.position < front.length) ∧
      ∀ t ∈ behind, front.length ≤ t.position := by
  obtain ⟨spans, tiles, small, rfl⟩ := exists_tiles_of_scan read
  obtain ⟨first, last, rfl, firsts, lasts⟩ := tiles.exists_cut (between spans tiles)
  obtain ⟨smallFirst, smallLast⟩ := List.forall_mem_append.mp small
  have room : front.length ≤ (front ++ back).length := by
    rw [List.length_append]
    exact Nat.le_add_right _ _
  refine ⟨first.map (·.located), last.map (·.located), List.map_append, ?_, ?_, ?_, ?_⟩
  · have tilesFront := (tiles.in_front room firsts lasts).take
    rw [List.take_left] at tilesFront
    exact scan_of_tiles tilesFront smallFirst
  · have tilesBack := tiles.in_back (Nat.zero_le _) firsts lasts
    have scanned := scan_drop_of_tiles tilesBack room smallLast
    rwa [List.drop_left] at scanned
  · intro t ht
    obtain ⟨s, hs, rfl⟩ := List.mem_map.mp ht
    have filled := tiles.start_lt_stop (List.mem_append_left last hs)
    exact Nat.lt_of_lt_of_le filled (firsts s hs)
  · intro t ht
    obtain ⟨s, hs, rfl⟩ := List.mem_map.mp ht
    exact lasts s hs

/-! ### Making a gap -/

/-- Blanks in front are skipped. -/
theorem scan_blanks {blanks : List Char} (hidden : ∀ c ∈ blanks, Text.isBlank c = true)
    (position : Nat) (cs : List Char) :
    scan position (blanks ++ cs) = scan (position + blanks.length) cs := by
  induction blanks generalizing position with
  | nil => rfl
  | cons c rest ih =>
      obtain ⟨blank, others⟩ := List.forall_mem_cons.mp hidden
      rw [List.cons_append, scan_blank position blank, ih others, List.length_cons,
        Nat.add_assoc, Nat.add_comm 1]

/-- The tokens of a text are the same further on. -/
theorem scan_later {cs : List Char} {position : Nat} {items : List Located}
    (read : scan position cs = .ok items) (distance : Nat) :
    scan (position + distance) cs = .ok (items.map (·.later distance)) := by
  induction length : cs.length using Nat.strongRecOn generalizing cs position items with
  | ind n ih =>
      cases cs with
      | nil =>
          rw [scan_nil] at read ⊢
          obtain rfl := Except.ok.inj read
          rfl
      | cons c rest =>
          cases shown : Text.isBlank c with
          | true =>
              rw [scan_blank _ shown] at read ⊢
              rw [Nat.add_right_comm]
              exact ih rest.length (by simp [← length]) read rfl
          | false =>
              obtain ⟨w, token, more, split, longest, small⟩ := exists_longest_of_scan read shown
              have filled := List.length_pos_iff.mpr (ne_nil_of_spells longest.spells)
              rw [split] at read length ⊢
              rw [List.length_append] at length
              rw [scan_longest longest small] at read ⊢
              cases readMore : scan (position + w.length) more with
              | error r =>
                  rw [readMore] at read
                  cases read
              | ok others =>
                  rw [readMore] at read
                  obtain rfl := Except.ok.inj read
                  rw [Nat.add_right_comm, ih more.length (by omega) readMore rfl]
                  rfl

/-- Tokens around a gap: those in front of it stay, and those behind it move on. -/
theorem map_spread {before behind : List Located} {place : Nat} (width : Nat)
    (fronts : ∀ t ∈ before, t.position < place) (backs : ∀ t ∈ behind, place ≤ t.position) :
    (before ++ behind).map (·.moved (spread place width)) =
      before ++ behind.map (·.later width) := by
  have stay : before.map (·.moved (spread place width)) = before := by
    calc
      before.map (·.moved (spread place width))
      _ = before.map id := by
        apply List.map_congr_left
        intro t ht
        rw [Located.moved, spread_of_lt width (fronts t ht)]
        rfl
      _ = before := List.map_id before
  have move : behind.map (·.moved (spread place width)) = behind.map (·.later width) := by
    apply List.map_congr_left
    intro t ht
    rw [Located.moved, spread_of_le width (backs t ht), Located.later]
  rw [List.map_append, stay, move]

/-- Blanks are put into a text between its tokens. -/
theorem scan_spread {front blanks back : List Char} {items : List Located}
    (read : scan 0 (front ++ back) = .ok items) (between : Between (front ++ back) front.length)
    (hidden : ∀ c ∈ blanks, Text.isBlank c = true) :
    scan 0 (front ++ (blanks ++ back)) =
      .ok (items.map (·.moved (spread front.length blanks.length))) := by
  obtain ⟨before, behind, rfl, readFront, readBack, fronts, backs⟩ :=
    exists_scan_of_between read between
  have later := scan_later readBack blanks.length
  rw [map_spread blanks.length fronts backs]
  cases blanks with
  | nil =>
      have unmoved : behind.map (·.later 0) = behind := List.map_id behind
      rw [List.length_nil, unmoved, List.nil_append, read]
  | cons d more =>
      have ends : isBoundary d = true := by
        rw [isBoundary, hidden d (List.mem_cons_self ..), Bool.true_or]
      have stay : before.map (·.later 0) = before := List.map_id before
      calc
        scan 0 (front ++ d :: (more ++ back))
        _ = (scan front.length (d :: more ++ back)).map (before ++ ·) := by
          have appended := scan_append readFront 0 ends (more ++ back)
          rwa [stay, Nat.zero_add, Nat.zero_add] at appended
        _ = (scan (front.length + (d :: more).length) back).map (before ++ ·) := by
          rw [scan_blanks hidden]
        _ = .ok (before ++ behind.map (·.later (d :: more).length)) := by
          rw [later]
          rfl

/-- The tokens of a text with blanks put in between them. -/
theorem ofText_spread {a b w : String} {tokens : Tokens} (read : ofText (a ++ b) = .ok tokens)
    (between : Between (a ++ b).toList a.length)
    (hidden : ∀ c ∈ w.toList, Text.isBlank c = true) :
    ofText (a ++ w ++ b) = .ok (tokens.moved (spread a.length w.length)) := by
  rw [ofText_eq, String.toList_append] at read
  rw [String.toList_append, ← String.length_toList] at between
  cases scanned : scan 0 (a.toList ++ b.toList) with
  | error r =>
      rw [scanned] at read
      cases read
  | ok items =>
      rw [scanned] at read
      obtain rfl := Except.ok.inj read
      have ended : spread a.length w.length (a.toList ++ b.toList).length =
          (a.toList ++ (w.toList ++ b.toList)).length := by
        simp only [List.length_append, String.length_toList]
        rw [spread_of_le w.length (Nat.le_add_right _ _)]
        omega
      rw [ofText_eq, String.toList_append, String.toList_append, List.append_assoc,
        scan_spread scanned between hidden, String.length_toList, String.length_toList,
        Tokens.moved, ended]
      rfl

end Tokens

namespace Expression

/-- What compiling comes to, once without and once with a gap: the same expression, or a failure for
the same reason at the same place but for the gap. -/
inductive SameBut (move : Nat → Nat) (source spaced : String) :
    Except Failure Expression → Except Failure Expression → Prop
  | compiled (tree : Expression) : SameBut move source spaced (.ok tree) (.ok tree)
  | turnedDown (message : String) (place : Nat) : SameBut move source spaced
      (.error (.expression ⟨message, source, some (place : Int)⟩))
      (.error (.expression ⟨message, spaced, some (move place : Int)⟩))

/-- **Blanks between tokens are insignificant.** Where a text has tokens and blanks are put in at a
place that is inside none of them, the text has the same tokens, and those from that place on have
moved by the width of the blanks, as has the end. It compiles to the same expression on every host,
or fails with the same message at the place that has moved along. -/
theorem blanks_are_insignificant {a b w : String} {tokens : Tokens}
    (read : Tokens.ofText (a ++ b) = .ok tokens)
    (between : Tokens.Between (a ++ b).toList a.length)
    (hidden : ∀ c ∈ w.toList, Text.isBlank c = true) :
    let move := spread a.length w.length
    Tokens.ofText (a ++ w ++ b) = .ok (tokens.moved move) ∧
      ∀ {σ : Type} (host : Host σ) (stage : Stage σ),
        SameBut move (a ++ b) (a ++ w ++ b) ((compile (.text (a ++ b))).run host stage).1
          ((compile (.text (a ++ w ++ b))).run host stage).1 := by
  intro move
  have spaced := Tokens.ofText_spread read between hidden
  refine ⟨spaced, fun host stage => ?_⟩
  rw [result_compile host stage (Value.shown_text _),
    result_compile host stage (Value.shown_text _), ofValue_text, ofValue_text, ofText_eq_bind,
    ofText_eq_bind, read, spaced, ok_bind, ok_bind, ofTokens_moved]
  cases outcome : ofTokens tokens with
  | ok tree => exact .compiled tree
  | error r =>
      obtain ⟨fault, place, rfl, -⟩ := ofTokens_error_place outcome
      exact .turnedDown fault.message place

/-- A name, an operator of two characters and a bracket that closes nothing. Blanks in front of the
operator move it and the bracket, and the text is turned down at the bracket as before. -/
theorem blanks_are_insignificant_in_front_of_operator :
    let source := "x" ++ "<=)"
    let spaced := "x" ++ " \n" ++ "<=)"
    Tokens.ofText source =
        .ok ⟨[⟨.name "x", 0⟩, ⟨.operator .lessEqual, 1⟩, ⟨.closing, 3⟩], 4⟩ ∧
      Tokens.Between source.toList 1 ∧
      Tokens.ofText spaced =
        .ok ⟨[⟨.name "x", 0⟩, ⟨.operator .lessEqual, 3⟩, ⟨.closing, 5⟩], 6⟩ ∧
      ∀ {σ : Type} (host : Host σ) (stage : Stage σ), SameBut (spread 1 2) source spaced
        ((compile (.text source)).run host stage).1
        ((compile (.text spaced)).run host stage).1 := by
  intro source spaced
  have chars : source.toList = ['x', '<', '=', ')'] := by decide
  let name : Tokens.Span := ⟨⟨.name "x", 0⟩, ['x']⟩
  let operator : Tokens.Span := ⟨⟨.operator .lessEqual, 1⟩, ['<', '=']⟩
  let bracket : Tokens.Span := ⟨⟨.closing, 3⟩, [')']⟩
  have spans : Tokens.Tiles ['x', '<', '=', ')'] 0 4 [name, operator, bracket] := by
    have last : Lexeme.Longest [')'] [')'] .closing := Lexeme.longest_punctuation rfl []
    have found : Lexeme.operator? ['<', '=', ')'] = some .lessEqual := by decide
    have second : Lexeme.Longest ['<', '=', ')'] ['<', '='] (.operator .lessEqual) :=
      Lexeme.longest_operator found
    have first : Lexeme.Longest ['x', '<', '=', ')'] ['x'] (.name "x") :=
      Lexeme.longest_name (by decide) ['<', '=', ')']
    have fromBracket : Tokens.Tiles ['x', '<', '=', ')'] 3 4 [bracket] :=
      .cons (s := bracket) (.nil _ 4) last (by decide)
    have fromOperator : Tokens.Tiles ['x', '<', '=', ')'] 1 4 [operator, bracket] :=
      .cons (s := operator) fromBracket second (by decide)
    exact .cons (s := name) fromOperator first (by decide)
  have read : Tokens.ofText source =
      .ok ⟨[⟨.name "x", 0⟩, ⟨.operator .lessEqual, 1⟩, ⟨.closing, 3⟩], 4⟩ := by
    have short : ∀ s ∈ [name, operator, bracket], ¬ digitLimit < s.lexeme.length := by decide
    rw [Tokens.ofText_eq, chars, Tokens.scan_of_tiles spans fun s hs large => short s hs large.2]
    rfl
  have between : Tokens.Between source.toList 1 := by
    rw [chars]
    intro others tiles
    rw [tiles.unique spans (Nat.zero_le _)]
    decide
  have hidden : ∀ c ∈ " \n".toList, Text.isBlank c = true := List.all_eq_true.mp rfl
  exact ⟨read, between, blanks_are_insignificant read between hidden⟩

end Expression

end Cartography
