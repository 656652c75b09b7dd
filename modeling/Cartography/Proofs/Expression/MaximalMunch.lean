import Cartography.Expression.Tokens
import Cartography.Proofs.Expression.LongestLexeme

/-!
# Texts cut into longest tokens

A stretch of a text is tiled by tokens that stand one behind another with only blanks between
them, each the longest that stands where it starts. A text has at most one such tiling. Scanning
finds it, or fails at the first place that no tiling gets past, or at an integer of too many
digits.

## Implementation notes

All tilings are of stretches of one whole text, and places are counted from its start. Two tilings
from the same place agree as far as both go, and everything about uniqueness follows from that.
-/

namespace Cartography.Tokens

open Lexeme

/-- A token with the characters it is read from. -/
structure Span where
  located : Located
  lexeme : List Char

namespace Span

/-- Where a span starts. -/
def start (s : Span) : Nat := s.located.position

/-- Where a span ends. -/
def stop (s : Span) : Nat := s.start + s.lexeme.length

end Span

/-- Some spans are the tokens of the stretch of a text from `start` to `finish`. -/
structure Tiles (cs : List Char) (start finish : Nat) (spans : List Span) : Prop where
  ordered : spans.Pairwise fun a b => a.stop ≤ b.start
  inside : ∀ s ∈ spans, start ≤ s.start ∧ s.stop ≤ finish
  covered : ∀ i c, start ≤ i → i < finish → cs[i]? = some c → Text.isBlank c = false →
    ∃ s ∈ spans, s.start ≤ i ∧ i < s.stop
  longest : ∀ s ∈ spans, Longest (cs.drop s.start) s.lexeme s.located.token

/-! ### Spans -/

theorem getElem?_of_drop {cs rest : List Char} {p : Nat} {c : Char}
    (ahead : cs.drop p = c :: rest) :
    cs[p]? = some c := by
  have first : (cs.drop p)[0]? = some c := by rw [ahead]; rfl
  rwa [List.getElem?_drop] at first

/-- A longest token starts with a character that is not blank. -/
theorem exists_shown {cs w : List Char} {p : Nat} {token : Token}
    (h : Longest (cs.drop p) w token) :
    (∃ c, cs[p]? = some c ∧ Text.isBlank c = false) ∧ 0 < w.length := by
  obtain ⟨c, others, rfl⟩ := List.exists_cons_of_ne_nil (ne_nil_of_spells h.spells)
  obtain ⟨more, split⟩ := h.front
  exact ⟨⟨c, getElem?_of_drop split.symm, isBlank_of_spells h.spells⟩, Nat.succ_pos _⟩

namespace Tiles

variable {cs : List Char} {start finish : Nat} {spans : List Span}

theorem start_lt_stop (h : Tiles cs start finish spans) {s : Span} (hs : s ∈ spans) :
    s.start < s.stop := by
  have filled := (exists_shown (h.longest s hs)).2
  unfold Span.stop
  omega

/-- The first span starts before all others. -/
theorem first_le {s : Span} {more : List Span} (h : Tiles cs start finish (s :: more)) :
    ∀ t ∈ s :: more, s.start ≤ t.start := by
  intro t ht
  rcases List.mem_cons.mp ht with rfl | later
  · exact Nat.le_refl _
  · have behind := (List.pairwise_cons.mp h.ordered).1 t later
    have filled := h.start_lt_stop (List.mem_cons_self ..)
    omega

/-- The first span starts no later than the first character that is not blank. -/
theorem first_le_of_shown {s : Span} {more : List Span} (h : Tiles cs start finish (s :: more))
    {i : Nat} {c : Char} (low : start ≤ i) (high : i < finish) (found : cs[i]? = some c)
    (shown : Text.isBlank c = false) : s.start ≤ i := by
  obtain ⟨t, ht, le, -⟩ := h.covered i c low high found shown
  exact Nat.le_trans (h.first_le t ht) le

/-- A stretch that starts with a character that is not blank starts with a token. -/
theorem exists_first (h : Tiles cs start finish spans) {c : Char} (filled : start < finish)
    (found : cs[start]? = some c) (shown : Text.isBlank c = false) :
    ∃ s more, spans = s :: more ∧ s.start = start := by
  obtain ⟨t, ht, -, -⟩ := h.covered start c (Nat.le_refl _) filled found shown
  obtain ⟨s, more, rfl⟩ := List.exists_cons_of_ne_nil (List.ne_nil_of_mem ht)
  have le := h.first_le_of_shown (Nat.le_refl _) filled found shown
  exact ⟨s, more, rfl, Nat.le_antisymm le (h.inside s (List.mem_cons_self ..)).1⟩

/-! ### Putting tilings together -/

theorem nil (cs : List Char) (start : Nat) : Tiles cs start start [] where
  ordered := .nil
  inside := by simp
  covered := by
    intro i c low high
    omega
  longest := by simp

/-- A tiling goes on in front with a blank. -/
theorem blank (h : Tiles cs (start + 1) finish spans) {c : Char} (found : cs[start]? = some c)
    (hidden : Text.isBlank c = true) : Tiles cs start finish spans where
  ordered := h.ordered
  inside := by
    intro s hs
    obtain ⟨low, high⟩ := h.inside s hs
    exact ⟨by omega, high⟩
  covered := by
    intro i d low high foundAt shown
    by_cases first : i = start
    · subst first
      obtain rfl := Option.some.inj (found.symm.trans foundAt)
      rw [hidden] at shown
      cases shown
    · exact h.covered i d (by omega) high foundAt shown
  longest := h.longest

/-- A tiling goes on in front with a longest token. -/
theorem cons {s : Span} {more : List Span} (h : Tiles cs s.stop finish more)
    (longest : Longest (cs.drop s.start) s.lexeme s.located.token) (room : s.stop ≤ finish) :
    Tiles cs s.start finish (s :: more) where
  ordered := List.pairwise_cons.mpr ⟨fun t ht => (h.inside t ht).1, h.ordered⟩
  inside := by
    intro t ht
    rcases List.mem_cons.mp ht with rfl | later
    · exact ⟨Nat.le_refl _, room⟩
    · obtain ⟨low, high⟩ := h.inside t later
      unfold Span.stop at low
      exact ⟨by omega, high⟩
  covered := by
    intro i c low high found shown
    by_cases first : i < s.stop
    · exact ⟨s, List.mem_cons_self .., low, first⟩
    · obtain ⟨t, ht, within⟩ := h.covered i c (by omega) high found shown
      exact ⟨t, List.mem_cons_of_mem s ht, within⟩
  longest := by
    intro t ht
    rcases List.mem_cons.mp ht with rfl | later
    · exact longest
    · exact h.longest t later

/-- What is left of a tiling behind its first span. -/
theorem tail {s : Span} {more : List Span} (h : Tiles cs start finish (s :: more)) :
    Tiles cs s.stop finish more where
  ordered := (List.pairwise_cons.mp h.ordered).2
  inside := fun t ht =>
    ⟨(List.pairwise_cons.mp h.ordered).1 t ht, (h.inside t (List.mem_cons_of_mem s ht)).2⟩
  covered := by
    intro i c low high found shown
    have within := (h.inside s (List.mem_cons_self ..)).1
    have filled := h.start_lt_stop (List.mem_cons_self ..)
    obtain ⟨t, ht, le, lt⟩ := h.covered i c (by omega) high found shown
    rcases List.mem_cons.mp ht with rfl | later
    · omega
    · exact ⟨t, later, le, lt⟩
  longest := fun t ht => h.longest t (List.mem_cons_of_mem s ht)

/-! ### Two tilings from one place -/

/-- Two tilings from one place start with the same token. -/
theorem same_first {finish' : Nat} {s t : Span} {more more' : List Span}
    (h : Tiles cs start finish (s :: more)) (h' : Tiles cs start finish' (t :: more'))
    (shorter : finish' ≤ finish) : s = t := by
  have insideS := (h.inside s (List.mem_cons_self ..)).1
  have insideT := h'.inside t (List.mem_cons_self ..)
  have filled := h'.start_lt_stop (List.mem_cons_self ..)
  have longestS := h.longest s (List.mem_cons_self ..)
  have longestT := h'.longest t (List.mem_cons_self ..)
  obtain ⟨⟨c, foundS, shownS⟩, -⟩ := exists_shown longestS
  obtain ⟨⟨d, foundT, shownT⟩, -⟩ := exists_shown longestT
  have le : s.start ≤ t.start := h.first_le_of_shown insideT.1 (by omega) foundT shownT
  have ge : t.start ≤ s.start := h'.first_le_of_shown insideS (by omega) foundS shownS
  have same : s.start = t.start := Nat.le_antisymm le ge
  rw [← same] at longestT
  obtain ⟨sameLexeme, sameToken⟩ := longestS.unique longestT
  obtain ⟨⟨token, position⟩, lexeme⟩ := s
  obtain ⟨⟨token', position'⟩, lexeme'⟩ := t
  simp_all [Span.start]

/-- A tiling as far as `finish` starts with every tiling that goes less far. -/
theorem exists_append {p : Nat} {front : List Span} (h : Tiles cs start finish spans)
    (h' : Tiles cs start p front) (low : start ≤ p) (high : p ≤ finish) :
    ∃ more, spans = front ++ more ∧ Tiles cs p finish more := by
  induction front generalizing start spans with
  | nil =>
      refine ⟨spans, rfl, h.ordered, ?_, ?_, h.longest⟩
      · intro s hs
        refine ⟨?_, (h.inside s hs).2⟩
        -- a span that started earlier would start with a character that the other leaves out
        obtain ⟨⟨c, found, shown⟩, -⟩ := exists_shown (h.longest s hs)
        apply Nat.not_lt.mp
        intro early
        obtain ⟨t, ht, -⟩ := h'.covered s.start c (h.inside s hs).1 early found shown
        cases ht
      · intro i c le lt found shown
        exact h.covered i c (Nat.le_trans low le) lt found shown
  | cons t others ih =>
      have insideT := h'.inside t (List.mem_cons_self ..)
      have filled := h'.start_lt_stop (List.mem_cons_self ..)
      obtain ⟨⟨c, found, shown⟩, -⟩ := exists_shown (h'.longest t (List.mem_cons_self ..))
      obtain ⟨s, hs, -⟩ := h.covered t.start c insideT.1 (by omega) found shown
      obtain ⟨first, rest, rfl⟩ := List.exists_cons_of_ne_nil (List.ne_nil_of_mem hs)
      obtain rfl := h.same_first h' high
      obtain ⟨more, rfl, behind⟩ := ih h.tail h'.tail insideT.2
      exact ⟨more, rfl, behind⟩

/-- A tiling has a token wherever another gets to from the same place and a character stands that
is not blank. -/
theorem exists_at {p : Nat} {front : List Span} (h : Tiles cs start finish spans)
    (h' : Tiles cs start p front) (low : start ≤ p) (high : p < finish) {c : Char}
    (found : cs[p]? = some c) (shown : Text.isBlank c = false) :
    ∃ s ∈ spans, Longest (cs.drop p) s.lexeme s.located.token := by
  obtain ⟨more, rfl, behind⟩ := h.exists_append h' low (Nat.le_of_lt high)
  obtain ⟨s, others, rfl, rfl⟩ := behind.exists_first high found shown
  exact ⟨s, by simp, behind.longest s (List.mem_cons_self ..)⟩

/-- A stretch has at most one tiling. -/
theorem unique {spans' : List Span} (h : Tiles cs start finish spans)
    (h' : Tiles cs start finish spans') (low : start ≤ finish) : spans = spans' := by
  obtain ⟨more, rfl, behind⟩ := h.exists_append h' low (Nat.le_refl _)
  cases more with
  | nil => exact List.append_nil _
  | cons s others =>
      have inside := behind.inside s (List.mem_cons_self ..)
      have filled := behind.start_lt_stop (List.mem_cons_self ..)
      omega

/-- A tiling of the front of a text tiles that front as a text of its own. -/
theorem take {p : Nat} (h : Tiles cs start p spans) : Tiles (cs.take p) start p spans where
  ordered := h.ordered
  inside := h.inside
  covered := by
    intro i c low high found shown
    rw [List.getElem?_take_of_lt high] at found
    exact h.covered i c low high found shown
  longest := by
    intro s hs
    obtain ⟨spells, front, longest⟩ := h.longest s hs
    have room := (h.inside s hs).2
    refine ⟨spells, ?_, ?_⟩
    · rw [List.drop_take]
      apply List.prefix_take_iff.mpr
      refine ⟨front, ?_⟩
      unfold Span.stop at room
      omega
    · intro w' token' spells' front'
      rw [List.drop_take] at front'
      exact longest w' token' spells' (front'.trans (List.take_prefix _ _))

end Tiles

/-! ### Scanning -/

/-- What comes of scanning a text from a place on: a tiling of the rest, or one as far as a place
where no token stands, or as far as an integer of too many digits. -/
inductive ScansAs (cs : List Char) (start : Nat) : Except Rejection (List Located) → Prop
  | whole {spans : List Span} (tiles : Tiles cs start cs.length spans)
      (small : ∀ s ∈ spans, ¬ Oversized s.lexeme) : ScansAs cs start (.ok (spans.map (·.located)))
  | stuck {fault : Fault} {p : Nat} {c : Char} {spans : List Span} (low : start ≤ p)
      (tiles : Tiles cs start p spans) (small : ∀ s ∈ spans, ¬ Oversized s.lexeme)
      (found : cs[p]? = some c) (shown : Text.isBlank c = false) (nothing : NoToken (cs.drop p)) :
      ScansAs cs start (.error (.faulty fault p))
  | oversized {p : Nat} {w : List Char} {token : Token} {spans : List Span} (low : start ≤ p)
      (tiles : Tiles cs start p spans) (longest : Longest (cs.drop p) w token)
      (large : Oversized w) : ScansAs cs start (.error (.oversizedInteger w.length))

namespace ScansAs

variable {cs : List Char} {start : Nat} {result : Except Rejection (List Located)}

/-- A blank in front changes nothing. -/
theorem blank {c : Char} (found : cs[start]? = some c) (hidden : Text.isBlank c = true)
    (h : ScansAs cs (start + 1) result) : ScansAs cs start result := by
  cases h with
  | whole tiles small => exact .whole (tiles.blank found hidden) small
  | stuck low tiles small foundAt shown nothing =>
      exact .stuck (by omega) (tiles.blank found hidden) small foundAt shown nothing
  | oversized low tiles longest large =>
      exact .oversized (by omega) (tiles.blank found hidden) longest large

/-- A longest token in front comes first. -/
theorem cons (s : Span) (longest : Longest (cs.drop s.start) s.lexeme s.located.token)
    (small : ¬ Oversized s.lexeme) (room : s.stop ≤ cs.length) (h : ScansAs cs s.stop result) :
    ScansAs cs s.start (result.map (s.located :: ·)) := by
  have advance : s.start ≤ s.stop := Nat.le_add_right _ _
  cases h with
  | whole tiles smallAll =>
      exact .whole (tiles.cons longest room) (List.forall_mem_cons.mpr ⟨small, smallAll⟩)
  | stuck low tiles smallAll found shown nothing =>
      exact .stuck (Nat.le_trans advance low) (tiles.cons longest low)
        (List.forall_mem_cons.mpr ⟨small, smallAll⟩) found shown nothing
  | oversized low tiles next large =>
      exact .oversized (Nat.le_trans advance low) (tiles.cons longest low) next large

end ScansAs

theorem scan_nil (position : Nat) : scan position [] = .ok [] := by
  rw [scan.eq_def]

/-- A blank at the head of a text is skipped. -/
theorem scan_blank (position : Nat) {c : Char} (hidden : Text.isBlank c = true) (rest : List Char) :
    scan position (c :: rest) = scan (position + 1) rest := by
  rw [scan.eq_def]
  simp only [hidden, if_true]

/-- A lexeme at the head of a text is followed by the tokens behind it. -/
theorem scan_shown (position : Nat) {c : Char} (shown : Text.isBlank c = false)
    (rest : List Char) : scan position (c :: rest) =
      (Lexeme.read position c rest).bind fun lexeme =>
        (scan (position + lexeme.width) ((c :: rest).drop lexeme.width)).map
          (⟨lexeme.token, position⟩ :: ·) := by
  rw [scan.eq_def]
  simp only [shown, Bool.false_eq_true, if_false]
  cases Lexeme.read position c rest with
  | error r => rfl
  | ok lexeme =>
      show (scan _ _).bind _ = (scan _ _).map _
      cases scan (position + lexeme.width) ((c :: rest).drop lexeme.width) <;> rfl

/-- Scanning goes on behind a longest token. -/
theorem scan_longest {w more : List Char} {token : Token} (longest : Longest (w ++ more) w token)
    (small : ¬ Oversized w) (position : Nat) : scan position (w ++ more) =
      (scan (position + w.length) more).map (⟨token, position⟩ :: ·) := by
  obtain ⟨c, others, rfl⟩ := List.exists_cons_of_ne_nil (ne_nil_of_spells longest.spells)
  have shown := isBlank_of_spells longest.spells
  rw [List.cons_append] at longest ⊢
  obtain ⟨lexeme, read, same, width⟩ := exists_read_of_longest longest small position
  have behind : ((c :: others) ++ more).drop (c :: others).length = more := List.drop_left
  rw [List.cons_append] at behind
  rw [scan_shown position shown, read]
  show (scan (position + lexeme.width) _).map _ = _
  rw [same, width, behind]

/-- Scanning from a character that is not blank, on the assumption that what stands further on
is scanned well. -/
theorem scansAs_shown {cs rest : List Char} {start : Nat} {c : Char}
    (ahead : cs.drop start = c :: rest) (shown : Text.isBlank c = false)
    (further : ∀ next, start < next → next ≤ cs.length →
      ScansAs cs next (scan next (cs.drop next))) :
    ScansAs cs start (scan start (c :: rest)) := by
  have outcome := readsAs start c rest
  rw [scan_shown start shown]
  cases read : Lexeme.read start c rest with
  | error r =>
      rw [read, ← ahead] at outcome
      cases outcome with
      | oversized longest large =>
          exact .oversized (Nat.le_refl _) (Tiles.nil cs start) longest large
      | nothing nothing =>
          exact .stuck (Nat.le_refl _) (Tiles.nil cs start) (by simp) (getElem?_of_drop ahead)
            shown nothing
  | ok lexeme =>
      rw [read, ← ahead] at outcome
      cases outcome with
      | @token w _ longest width small =>
          have filled := (exists_shown longest).2
          have room : start + w.length ≤ cs.length := by
            have fits := longest.front.length_le
            rw [List.length_drop] at fits
            omega
          have following := further (start + w.length) (by omega) room
          show ScansAs cs start ((scan (start + lexeme.width)
            ((c :: rest).drop lexeme.width)).map (⟨lexeme.token, start⟩ :: ·))
          rw [← ahead, List.drop_drop, ← width]
          exact .cons ⟨⟨lexeme.token, start⟩, w⟩ longest small room following

/-- Scanning tiles a text, as far as that can be done. -/
theorem scansAs (cs : List Char) (start : Nat) (inside : start ≤ cs.length) :
    ScansAs cs start (scan start (cs.drop start)) := by
  induction left : cs.length - start using Nat.strongRecOn generalizing start with
  | ind n ih =>
      have further (next : Nat) (later : start < next) (room : next ≤ cs.length) :
          ScansAs cs next (scan next (cs.drop next)) := ih _ (by omega) next room rfl
      cases ahead : cs.drop start with
      | nil =>
          have finished : start = cs.length :=
            Nat.le_antisymm inside (List.drop_eq_nil_iff.mp ahead)
          subst finished
          rw [scan_nil]
          exact .whole (Tiles.nil cs cs.length) (by simp)
      | cons c rest =>
          have found : cs[start]? = some c := getElem?_of_drop ahead
          have filled : start < cs.length := (List.getElem?_eq_some_iff.mp found).1
          cases shown : Text.isBlank c with
          | true =>
              have behind : rest = cs.drop (start + 1) := by
                rw [← List.drop_drop, ahead]
                rfl
              rw [scan_blank start shown, behind]
              exact .blank found shown (further (start + 1) (Nat.lt_succ_self _) filled)
          | false => exact scansAs_shown ahead shown further

/-- Scanning from a place on finds the tiling of the rest, unless it meets an integer of too many
digits. -/
theorem scan_drop_of_tiles {cs : List Char} {start : Nat} {spans : List Span}
    (tiles : Tiles cs start cs.length spans) (room : start ≤ cs.length)
    (small : ∀ s ∈ spans, ¬ Oversized s.lexeme) :
    scan start (cs.drop start) = .ok (spans.map (·.located)) := by
  have outcome := scansAs cs start room
  generalize scan start (cs.drop start) = result at outcome
  cases outcome with
  | whole tiles' _ => rw [tiles.unique tiles' room]
  | stuck low tiles' _ found shown nothing =>
      have inside := (List.getElem?_eq_some_iff.mp found).1
      obtain ⟨s, _, longest⟩ := tiles.exists_at tiles' low inside found shown
      exact absurd longest.front (nothing _ _ longest.spells)
  | oversized low tiles' longest' large =>
      obtain ⟨⟨c, found, shown⟩, -⟩ := exists_shown longest'
      have inside := (List.getElem?_eq_some_iff.mp found).1
      obtain ⟨s, hs, longest⟩ := tiles.exists_at tiles' low inside found shown
      obtain ⟨rfl, -⟩ := longest'.unique longest
      exact absurd large (small s hs)

/-- Scanning finds the tiling of a text, unless it meets an integer of too many digits. -/
theorem scan_of_tiles {cs : List Char} {spans : List Span} (tiles : Tiles cs 0 cs.length spans)
    (small : ∀ s ∈ spans, ¬ Oversized s.lexeme) : scan 0 cs = .ok (spans.map (·.located)) :=
  scan_drop_of_tiles tiles (Nat.zero_le _) small

/-- The tokens that are scanned tile the text. -/
theorem exists_tiles_of_scan {cs : List Char} {items : List Located}
    (read : scan 0 cs = .ok items) : ∃ spans, Tiles cs 0 cs.length spans ∧
      (∀ s ∈ spans, ¬ Oversized s.lexeme) ∧ spans.map (·.located) = items := by
  have outcome := scansAs cs 0 (Nat.zero_le _)
  rw [List.drop_zero, read] at outcome
  cases outcome with
  | whole tiles small => exact ⟨_, tiles, small, rfl⟩

/-- Scanning fails over an integer of too many digits that it gets to. -/
theorem scan_of_oversized {cs w : List Char} {p : Nat} {spans : List Span} {token : Token}
    (tiles : Tiles cs 0 p spans) (longest : Longest (cs.drop p) w token) (large : Oversized w) :
    ∃ digits, scan 0 cs = .error (.oversizedInteger digits) := by
  obtain ⟨⟨c, found, shown⟩, -⟩ := exists_shown longest
  have inside := (List.getElem?_eq_some_iff.mp found).1
  have outcome := scansAs cs 0 (Nat.zero_le _)
  rw [List.drop_zero] at outcome
  -- a tiling without such integers cannot get past this one
  have absent {finish : Nat} {others : List Span} (tiles' : Tiles cs 0 finish others)
      (small : ∀ s ∈ others, ¬ Oversized s.lexeme) : finish ≤ p := by
    apply Nat.not_lt.mp
    intro further
    obtain ⟨s, hs, longest'⟩ := tiles'.exists_at tiles (Nat.zero_le _) further found shown
    obtain ⟨rfl, -⟩ := longest.unique longest'
    exact small s hs large
  generalize scan 0 cs = result at outcome
  cases outcome with
  | whole tiles' small => exact absurd (absent tiles' small) (Nat.not_le_of_lt inside)
  | @stuck _ q d _ low tiles' small foundAt shownAt nothing =>
      exfalso
      rcases Nat.lt_or_eq_of_le (absent tiles' small) with earlier | rfl
      · obtain ⟨s, _, longest'⟩ := tiles.exists_at tiles' low earlier foundAt shownAt
        exact nothing _ _ longest'.spells longest'.front
      · exact nothing _ _ longest.spells longest.front
  | oversized => exact ⟨_, rfl⟩

/-! ### Texts -/

/-- Some tokens are those of a text: one behind another, and tiling it from its start to its
end. -/
structure IsTokenization (source : String) (tokens : Tokens) : Prop where
  increasing : tokens.items.Pairwise fun a b => a.position < b.position
  tiled : ∃ spans, Tiles source.toList 0 source.toList.length spans ∧
    spans.map (·.located) = tokens.items
  ended : tokens.stop = source.toList.length

/-- The tokens of a text can be read as far as a place, and none stands there. -/
structure StopsAt (source : String) (p : Nat) : Prop where
  inside : p < source.toList.length
  shown : ∀ c ∈ source.toList[p]?, Text.isBlank c = false
  nothing : NoToken (source.toList.drop p)
  front : ∃ spans, Tiles source.toList 0 p spans ∧
    ofText (String.ofList (source.toList.take p)) = .ok ⟨spans.map (·.located), p⟩

/-- A text is read as its only tokenization, or turned down at the first place that none gets
past. -/
def MunchesMaximally (source : String) : Prop :=
  (∃ tokens, ofText source = .ok tokens ∧ IsTokenization source tokens ∧
    ∀ other, IsTokenization source other → other = tokens) ∨
  (∃ fault p, ofText source = .error (.faulty fault p) ∧ StopsAt source p ∧
    ∀ other, ¬ IsTokenization source other)

/-- Among the longest tokens of a text is an integer of too many digits. -/
def MeetsOversized (source : String) : Prop :=
  ∃ p spans w token, Tiles source.toList 0 p spans ∧
    Longest (source.toList.drop p) w token ∧ Oversized w

/-- The places of tokens that tile a text increase. -/
theorem Tiles.increasing {cs : List Char} {start finish : Nat} {spans : List Span}
    (h : Tiles cs start finish spans) :
    (spans.map (·.located)).Pairwise fun a b => a.position < b.position := by
  rw [List.pairwise_map]
  refine h.ordered.imp_of_mem ?_
  intro a b ha hb le
  exact Nat.lt_of_lt_of_le (h.start_lt_stop ha) le

theorem IsTokenization.unique {source : String} {tokens other : Tokens}
    (h : IsTokenization source tokens) (h' : IsTokenization source other) : other = tokens := by
  obtain ⟨items, stop⟩ := tokens
  obtain ⟨items', stop'⟩ := other
  obtain ⟨-, ⟨spans, tiles, rfl⟩, rfl⟩ := h
  obtain ⟨-, ⟨spans', tiles', rfl⟩, rfl⟩ := h'
  rw [tiles.unique tiles' (Nat.zero_le _)]

theorem ofText_eq (source : String) : ofText source =
    (scan 0 source.toList).map fun items => ⟨items, source.toList.length⟩ := by
  show (scan 0 source.toList).bind _ = (scan 0 source.toList).map _
  cases scan 0 source.toList <;> rfl

/-- A text whose tokens hold no integer of too many digits is read as it should be. -/
theorem munchesMaximally_of_small {source : String} (small : ¬ MeetsOversized source) :
    MunchesMaximally source := by
  have outcome := scansAs source.toList 0 (Nat.zero_le _)
  rw [List.drop_zero] at outcome
  unfold MunchesMaximally
  rw [ofText_eq]
  generalize scan 0 source.toList = result at outcome
  cases outcome with
  | @whole spans tiles _ =>
      left
      have tokenized : IsTokenization source ⟨spans.map (·.located), source.toList.length⟩ :=
        ⟨tiles.increasing, ⟨spans, tiles, rfl⟩, rfl⟩
      exact ⟨_, rfl, tokenized, fun other h => tokenized.unique h⟩
  | @stuck fault p c spans low tiles smallAll found shown nothing =>
      right
      have inside := (List.getElem?_eq_some_iff.mp found).1
      refine ⟨fault, p, rfl, ⟨inside, ?_, nothing, spans, tiles, ?_⟩, ?_⟩
      · intro d hd
        obtain rfl := Option.some.inj (found.symm.trans hd)
        exact shown
      · have length : (source.toList.take p).length = p := by
          rw [List.length_take]
          omega
        have tilesFront : Tiles (source.toList.take p) 0 (source.toList.take p).length spans := by
          rw [length]
          exact tiles.take
        rw [ofText_eq, String.toList_ofList, scan_of_tiles tilesFront smallAll, length]
        rfl
      · rintro other ⟨-, ⟨spans', tiles', -⟩, -⟩
        obtain ⟨s, _, longest⟩ := tiles'.exists_at tiles low inside found shown
        exact nothing _ _ longest.spells longest.front
  | oversized _ tiles longest large => exact absurd ⟨_, _, _, _, tiles, longest, large⟩ small

/-- A text with an integer of too many digits among its tokens is neither read nor turned down at
a place. -/
theorem not_munchesMaximally_of_oversized {source : String} (meets : MeetsOversized source) :
    ¬ MunchesMaximally source := by
  obtain ⟨p, spans, w, token, tiles, longest, large⟩ := meets
  obtain ⟨digits, failed⟩ := scan_of_oversized tiles longest large
  rintro (⟨tokens, read, -⟩ | ⟨fault, q, read, -⟩)
  · rw [ofText_eq, failed] at read
    cases read
  · rw [ofText_eq, failed] at read
    cases read

/-- A text is read as its only cut into longest tokens, or turned down at the first place that
none gets past, exactly when no integer of too many digits is among those tokens. -/
theorem munchesMaximally_iff (source : String) :
    MunchesMaximally source ↔ ¬ MeetsOversized source := by
  constructor
  · exact fun munches meets => not_munchesMaximally_of_oversized meets munches
  · exact munchesMaximally_of_small

/-- Too many digits at the start of a text are an integer that is not read. -/
theorem meetsOversized_of_digits {ds : List Char} (digits : Numeral.AllDigits ds)
    (large : digitLimit < ds.length) : MeetsOversized (String.ofList (ds ++ [' ', '@'])) := by
  have filled : ds ≠ [] := by
    rintro rfl
    cases large
  have writes : Numeral.Writes (ds ++ ([] ++ [])) ⟨ds, none, none⟩ :=
    .parts digits .absent .absent (Or.inl filled)
  have ends : Numeral.EndsDigits [' ', '@'] := by
    intro c hc
    obtain rfl : ' ' = c := by simpa using hc
    decide
  have read : Numeral.read? (ds ++ [' ', '@']) = some ⟨ds, none, none⟩ := by
    rw [Numeral.read?_whole digits ends (by simp), if_neg (by simpa using filled)]
    rfl
  have longest := longest_numeral read (by simpa using writes) (List.prefix_append ds _)
  refine ⟨0, [], ds, .number (Numeral.number ⟨ds, none, none⟩), Tiles.nil _ 0, ?_, digits, large⟩
  rw [String.toList_ofList, List.drop_zero]
  exact longest

/-- An integer of one digit too many in front of a character that starts no token. -/
theorem not_munchesMaximally_of_ones :
    ¬ MunchesMaximally (String.ofList (List.replicate 4301 '1' ++ [' ', '@'])) := by
  apply not_munchesMaximally_of_oversized
  apply meetsOversized_of_digits
  · intro c hc
    rw [List.eq_of_mem_replicate hc]
    decide
  · rw [List.length_replicate]
    decide

end Cartography.Tokens
