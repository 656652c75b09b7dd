import Cartography.Number.Numeral

/-!
# Numerals as they are written

The texts that write a numeral, and the reader of numerals set against them: it accepts the
longest such text in front of another, and no text writes two numerals.
-/

namespace Cartography.Numeral

/-- Digits and nothing else. -/
def AllDigits (cs : List Char) : Prop := ∀ c ∈ cs, Text.isDigit c = true

/-- Some characters do not go on with the digits in front of them. -/
def EndsDigits (cs : List Char) : Prop := ∀ c ∈ cs.head?, Text.isDigit c = false

/-- The characters of a fraction: a point and any digits. -/
inductive WritesFraction : List Char → Option (List Char) → Prop
  | absent : WritesFraction [] none
  | present {digits : List Char} (all : AllDigits digits) :
      WritesFraction ('.' :: digits) (some digits)

/-- The characters of an exponent: a mark, a sign if there is one, and digits. -/
inductive WritesExponent : List Char → Option (Option Char × List Char) → Prop
  | absent : WritesExponent [] none
  | present {mark : Char} {sign : Option Char} {digits : List Char}
      (marked : mark = 'e' ∨ mark = 'E') (signed : ∀ s ∈ sign, s = '+' ∨ s = '-')
      (filled : digits ≠ []) (all : AllDigits digits) :
      WritesExponent (mark :: (sign.toList ++ digits)) (some (sign, digits))

/-- The characters of a numeral. There are digits in front of its point or behind it. -/
inductive Writes : List Char → Numeral → Prop
  | parts {whole fractionChars exponentChars : List Char} {fraction : Option (List Char)}
      {exponent : Option (Option Char × List Char)} (all : AllDigits whole)
      (fractionWritten : WritesFraction fractionChars fraction)
      (exponentWritten : WritesExponent exponentChars exponent)
      (filled : whole ≠ [] ∨ ∃ digits, fraction = some digits ∧ digits ≠ []) :
      Writes (whole ++ (fractionChars ++ exponentChars)) ⟨whole, fraction, exponent⟩

/-! ### Digits in front of a text -/

theorem AllDigits.append {ds es : List Char} (hd : AllDigits ds) (he : AllDigits es) :
    AllDigits (ds ++ es) := by
  intro c hc
  rcases List.mem_append.mp hc with h | h
  · exact hd c h
  · exact he c h

theorem allDigits_leadingDigits (cs : List Char) : AllDigits (leadingDigits cs) := by
  intro c hc
  exact List.all_eq_true.mp List.all_takeWhile c hc

theorem leadingDigits_append {ds : List Char} (all : AllDigits ds) (more : List Char) :
    leadingDigits (ds ++ more) = ds ++ leadingDigits more :=
  List.takeWhile_append_of_pos all

theorem leadingDigits_of_ends {cs : List Char} (ends : EndsDigits cs) : leadingDigits cs = [] := by
  cases cs with
  | nil => rfl
  | cons c rest =>
      have other : Text.isDigit c = false := ends c rfl
      simp [leadingDigits, other]

/-- A text is its digits in front and what does not go on with them. -/
theorem exists_leadingDigits (cs : List Char) :
    ∃ rest, cs = leadingDigits cs ++ rest ∧ EndsDigits rest := by
  refine ⟨cs.dropWhile Text.isDigit, List.takeWhile_append_dropWhile.symm, ?_⟩
  intro c hc
  have other := List.head?_dropWhile_not Text.isDigit cs
  rw [hc] at other
  exact other

/-! ### Exponents -/

theorem isDigit_mark {mark : Char} (marked : mark = 'e' ∨ mark = 'E') :
    Text.isDigit mark = false := by
  rcases marked with rfl | rfl <;> decide

theorem length_of_writesExponent {cs : List Char} {e : Option (Option Char × List Char)}
    (h : WritesExponent cs e) : cs.length = exponentWidth e := by
  cases h with
  | absent => rfl
  | present => simp [exponentWidth]; omega

/-- The characters of an exponent do not go on with digits in front of them. -/
theorem endsDigits_of_writesExponent {cs : List Char} {e : Option Char × List Char}
    (h : WritesExponent cs (some e)) (more : List Char) : EndsDigits (cs ++ more) := by
  cases h with
  | present marked =>
      intro c hc
      obtain rfl : _ = c := by simpa using hc
      exact isDigit_mark marked

/-- An exponent takes its digits and all that follow them. -/
theorem exponent?_append {mark : Char} {sign : Option Char} {ds : List Char}
    (marked : mark = 'e' ∨ mark = 'E') (signed : ∀ s ∈ sign, s = '+' ∨ s = '-')
    (filled : ds ≠ []) (all : AllDigits ds) (more : List Char) :
    exponent? (mark :: (sign.toList ++ ds) ++ more) = some (sign, ds ++ leadingDigits more) := by
  have some_digits : leadingDigits (ds ++ more) = ds ++ leadingDigits more :=
    leadingDigits_append all more
  have nonempty : (ds ++ leadingDigits more).isEmpty = false := by simp [filled]
  cases sign with
  | none =>
      obtain ⟨d, others, rfl⟩ := List.exists_cons_of_ne_nil filled
      have digit : Text.isDigit d = true := all d (List.mem_cons_self ..)
      have unsigned : d ≠ '+' ∧ d ≠ '-' := by
        constructor <;> rintro rfl <;> exact absurd digit (by decide)
      simp only [Option.toList_none, List.nil_append, List.cons_append] at some_digits nonempty ⊢
      rw [exponent?]
      · simp [marked, some_digits]
      · simpa using unsigned.1
      · simpa using unsigned.2
  | some sign =>
      rcases signed sign rfl with rfl | rfl
      · simp [exponent?, marked, some_digits, filled]
      · simp [exponent?, marked, some_digits, filled]

/-- A sign, if there is one, and the digits behind it are parted as they are written. -/
theorem exists_signed_digits {rest digits : List Char} {sign : Option Char}
    (parted : (match rest with
      | '+' :: others => (some '+', leadingDigits others)
      | '-' :: others => (some '-', leadingDigits others)
      | others => (none, leadingDigits others)) = (sign, digits)) :
    (∀ s ∈ sign, s = '+' ∨ s = '-') ∧
      ∃ others, rest = sign.toList ++ others ∧ digits = leadingDigits others := by
  split at parted <;> obtain ⟨rfl, rfl⟩ := Prod.mk.inj parted
  · exact ⟨by simp, _, rfl, rfl⟩
  · exact ⟨by simp, _, rfl, rfl⟩
  · exact ⟨by simp, _, rfl, rfl⟩

/-- The exponent that is read is written in front of the text. -/
theorem exists_writesExponent (cs : List Char) :
    ∃ w more, cs = w ++ more ∧ WritesExponent w (exponent? cs) := by
  fun_cases exponent? cs with
  | case2 mark rest marked sign digits parted filled =>
      obtain ⟨signed, others, rfl, rfl⟩ := exists_signed_digits parted
      obtain ⟨more, split, -⟩ := exists_leadingDigits others
      refine ⟨mark :: (sign.toList ++ leadingDigits others), more, by simp [← split], ?_⟩
      exact .present marked signed (by simpa using filled) (allDigits_leadingDigits others)
  | case1 => exact ⟨[], _, rfl, .absent⟩
  | case3 => exact ⟨[], _, rfl, .absent⟩
  | case4 => exact ⟨[], _, rfl, .absent⟩

/-- An exponent is at least as wide as any that is written in front of the text. -/
theorem exponentWidth_le {w : List Char} {e : Option (Option Char × List Char)}
    (h : WritesExponent w e) (more : List Char) :
    exponentWidth e ≤ exponentWidth (exponent? (w ++ more)) := by
  cases h with
  | absent => exact Nat.zero_le _
  | present marked signed filled all =>
      rw [exponent?_append marked signed filled all]
      simp [exponentWidth]

/-- A written exponent is read back where no digits follow it. -/
theorem exponent?_of_writes {w : List Char} {e : Option Char × List Char}
    (h : WritesExponent w (some e)) {more : List Char} (ends : EndsDigits more) :
    exponent? (w ++ more) = some e := by
  cases h with
  | present marked signed filled all =>
      rw [exponent?_append marked signed filled all, leadingDigits_of_ends ends, List.append_nil]

/-! ### Numerals -/

/-- Digits with a point behind them are read with the digits behind the point. -/
theorem read?_point {ds : List Char} (all : AllDigits ds) {fs : List Char} (fraction : AllDigits fs)
    {rest : List Char} (ends : EndsDigits rest) :
    read? (ds ++ '.' :: (fs ++ rest)) =
      if ds.isEmpty && fs.isEmpty then none else some ⟨ds, some fs, exponent? rest⟩ := by
  have whole : leadingDigits (ds ++ '.' :: (fs ++ rest)) = ds := by
    rw [leadingDigits_append all, leadingDigits_of_ends, List.append_nil]
    intro c hc
    obtain rfl : '.' = c := by simpa using hc
    decide
  have behind : leadingDigits (fs ++ rest) = fs := by
    rw [leadingDigits_append fraction, leadingDigits_of_ends ends, List.append_nil]
  simp [read?, whole, behind]

/-- Digits without a point behind them are read alone. -/
theorem read?_whole {ds : List Char} (all : AllDigits ds) {rest : List Char}
    (ends : EndsDigits rest) (unpointed : rest.head? ≠ some '.') :
    read? (ds ++ rest) = if ds.isEmpty then none else some ⟨ds, none, exponent? rest⟩ := by
  have whole : leadingDigits (ds ++ rest) = ds := by
    rw [leadingDigits_append all, leadingDigits_of_ends ends, List.append_nil]
  unfold read?
  simp only [whole, List.drop_left]
  split
  · simp at unpointed
  · rfl

/-- Every text is digits with a point behind them, or digits without one. -/
theorem point_or_whole (cs : List Char) :
    (∃ ds fs rest, cs = ds ++ '.' :: (fs ++ rest) ∧ AllDigits ds ∧ AllDigits fs ∧ EndsDigits rest) ∨
      ∃ ds rest, cs = ds ++ rest ∧ AllDigits ds ∧ EndsDigits rest ∧ rest.head? ≠ some '.' := by
  obtain ⟨behind, split, ends⟩ := exists_leadingDigits cs
  by_cases pointed : behind.head? = some '.'
  · left
    obtain ⟨others, rfl⟩ := List.head?_eq_some_iff.mp pointed
    obtain ⟨rest, splitOthers, endsRest⟩ := exists_leadingDigits others
    refine ⟨leadingDigits cs, leadingDigits others, rest, ?_, allDigits_leadingDigits cs,
      allDigits_leadingDigits others, endsRest⟩
    rw [← splitOthers, ← split]
  · exact Or.inr ⟨leadingDigits cs, behind, split, allDigits_leadingDigits cs, ends, pointed⟩

theorem length_of_writes {w : List Char} {n : Numeral} (h : Writes w n) : w.length = n.width := by
  obtain ⟨all, fractionWritten, exponentWritten, filled⟩ := h
  have exponentLength := length_of_writesExponent exponentWritten
  cases fractionWritten <;> simp [width, fractionWidth] <;> omega

theorem ne_nil_of_writes {w : List Char} {n : Numeral} (h : Writes w n) : w ≠ [] := by
  obtain ⟨-, fractionWritten, -, filled⟩ := h
  cases fractionWritten with
  | absent =>
      rcases filled with filled | ⟨_, absent, -⟩
      · simp [filled]
      · cases absent
  | present => simp

/-- A numeral starts with a digit or with a point. -/
theorem head_of_writes {c : Char} {cs : List Char} {n : Numeral} (h : Writes (c :: cs) n) :
    Text.isDigit c = true ∨ c = '.' := by
  generalize written : c :: cs = w at h
  obtain @⟨ds, _, e, fraction, _, all, fractionWritten, -, filled⟩ := h
  cases ds with
  | cons d ds =>
      obtain ⟨rfl, -⟩ := List.cons.inj written
      exact Or.inl (all c (List.mem_cons_self ..))
  | nil =>
      cases fractionWritten with
      | absent => simp at filled
      | present =>
          obtain ⟨rfl, -⟩ := List.cons.inj written
          exact Or.inr rfl

/-- The numeral that is read is written in front of the text. -/
theorem exists_writes_of_read? {cs : List Char} {n : Numeral} (read : read? cs = some n) :
    ∃ w more, cs = w ++ more ∧ Writes w n := by
  rcases point_or_whole cs with ⟨ds, fs, rest, rfl, all, fraction, ends⟩ |
    ⟨ds, rest, rfl, all, ends, unpointed⟩
  · obtain ⟨w, more, split, written⟩ := exists_writesExponent rest
    rw [read?_point all fraction ends] at read
    split at read
    · cases read
    · rename_i filled
      obtain rfl := Option.some.inj read
      refine ⟨ds ++ ('.' :: fs ++ w), more, ?_, .parts all (.present fraction) written ?_⟩
      · simp [split]
      · by_cases empty : ds = []
        · exact Or.inr ⟨fs, rfl, by simpa [empty] using filled⟩
        · exact Or.inl empty
  · obtain ⟨w, more, split, written⟩ := exists_writesExponent rest
    rw [read?_whole all ends unpointed] at read
    split at read
    · cases read
    · rename_i filled
      obtain rfl := Option.some.inj read
      refine ⟨ds ++ ([] ++ w), more, ?_, .parts all .absent written (Or.inl ?_)⟩
      · simp [split]
      · simpa using filled

/-- An exponent does not start with a point. -/
theorem head_of_writesExponent {cs : List Char} {e : Option Char × List Char}
    (h : WritesExponent cs (some e)) (more : List Char) : (cs ++ more).head? ≠ some '.' := by
  cases h with
  | present marked => rcases marked with rfl | rfl <;> simp

theorem writesExponent_none {cs : List Char} (h : WritesExponent cs none) : cs = [] := by
  cases h
  rfl

/-- Digits in front of a text are part of the numeral that is read there. -/
theorem exists_read?_of_digits {ds : List Char} (all : AllDigits ds) (filled : ds ≠ [])
    (more : List Char) : ∃ m, read? (ds ++ more) = some m ∧ ds.length ≤ m.width := by
  rcases point_or_whole more with ⟨ds', fs, rest, rfl, all', fraction, ends⟩ |
    ⟨ds', rest, rfl, all', ends, unpointed⟩
  · refine ⟨⟨ds ++ ds', some fs, exponent? rest⟩, ?_, ?_⟩
    · rw [← List.append_assoc, read?_point (all.append all') fraction ends]
      simp [filled]
    · simp only [width, List.length_append]
      omega
  · refine ⟨⟨ds ++ ds', none, exponent? rest⟩, ?_, ?_⟩
    · rw [← List.append_assoc, read?_whole (all.append all') ends unpointed]
      simp [filled]
    · simp only [width, List.length_append]
      omega

/-- A fraction comes with digits in front of its point or behind it. -/
theorem not_both_empty {ds fs : List Char}
    (filled : ds ≠ [] ∨ ∃ digits, some fs = some digits ∧ digits ≠ []) :
    (ds.isEmpty && fs.isEmpty) = false := by
  rcases filled with filled | ⟨_, same, filled⟩
  · simp [filled]
  · cases same
    simp [filled]

/-- A numeral that is written in front of a text is no longer than the one that is read there. -/
theorem exists_read?_of_writes {w : List Char} {n : Numeral} (h : Writes w n) (more : List Char) :
    ∃ m, read? (w ++ more) = some m ∧ n.width ≤ m.width := by
  obtain @⟨ds, _, e, _, exponent, all, fractionWritten, exponentWritten, filled⟩ := h
  cases fractionWritten with
  | absent =>
      have nonempty : ds ≠ [] := by simpa using filled
      cases exponent with
      | none =>
          obtain rfl := writesExponent_none exponentWritten
          obtain ⟨m, read, le⟩ := exists_read?_of_digits all nonempty more
          exact ⟨m, by simpa using read, by simpa [width, fractionWidth, exponentWidth] using le⟩
      | some x =>
          refine ⟨⟨ds, none, exponent? (e ++ more)⟩, ?_, ?_⟩
          · rw [List.nil_append, List.append_assoc,
              read?_whole all (endsDigits_of_writesExponent exponentWritten more)
                (head_of_writesExponent exponentWritten more)]
            simp [nonempty]
          · have le := exponentWidth_le exponentWritten more
            simp only [width]
            omega
  | @present fs fraction =>
      have nonempty := not_both_empty filled
      cases exponent with
      | none =>
          obtain rfl := writesExponent_none exponentWritten
          obtain ⟨rest, split, ends⟩ := exists_leadingDigits more
          have longer := fraction.append (allDigits_leadingDigits more)
          refine ⟨⟨ds, some (fs ++ leadingDigits more), exponent? rest⟩, ?_, ?_⟩
          · have cut : ds ++ ('.' :: fs ++ []) ++ more =
                ds ++ '.' :: (fs ++ leadingDigits more ++ rest) := by simp [← split]
            rw [cut, read?_point all longer ends, if_neg]
            simpa using fun empty => by simp [empty] at nonempty; simp [nonempty]
          · simp only [width, fractionWidth, exponentWidth, List.length_append]
            omega
      | some x =>
          refine ⟨⟨ds, some fs, exponent? (e ++ more)⟩, ?_, ?_⟩
          · have cut : ds ++ ('.' :: fs ++ e) ++ more = ds ++ '.' :: (fs ++ (e ++ more)) := by simp
            rw [cut, read?_point all fraction (endsDigits_of_writesExponent exponentWritten more),
              nonempty]
            rfl
          · have le := exponentWidth_le exponentWritten more
            simp only [width]
            omega

/-- A written numeral is read back where what follows does not go on with it. -/
theorem read?_of_writes {w : List Char} {n : Numeral} (h : Writes w n) {more : List Char}
    (ends : EndsDigits more) (unpointed : more.head? ≠ some '.') (bare : exponent? more = none) :
    read? (w ++ more) = some n := by
  obtain @⟨ds, _, e, _, exponent, all, fractionWritten, exponentWritten, filled⟩ := h
  have readExponent : exponent? (e ++ more) = exponent := by
    cases exponent with
    | none => rw [writesExponent_none exponentWritten, List.nil_append, bare]
    | some x => exact exponent?_of_writes exponentWritten ends
  have ends' : EndsDigits (e ++ more) ∧ (e ++ more).head? ≠ some '.' := by
    cases exponent with
    | none =>
        rw [writesExponent_none exponentWritten]
        exact ⟨ends, unpointed⟩
    | some x =>
        exact ⟨endsDigits_of_writesExponent exponentWritten more,
          head_of_writesExponent exponentWritten more⟩
  cases fractionWritten with
  | absent =>
      have nonempty : ds ≠ [] := by simpa using filled
      rw [List.nil_append, List.append_assoc, read?_whole all ends'.1 ends'.2, readExponent]
      simp [nonempty]
  | @present fs fraction =>
      have cut : ds ++ ('.' :: fs ++ e) ++ more = ds ++ '.' :: (fs ++ (e ++ more)) := by simp
      rw [cut, read?_point all fraction ends'.1, readExponent, not_both_empty filled]
      rfl

/-- A text writes at most one numeral. -/
theorem writes_unique {w : List Char} {m n : Numeral} (hm : Writes w m) (hn : Writes w n) :
    m = n := by
  have nothing : EndsDigits [] := by simp [EndsDigits]
  have readM : read? (w ++ []) = some m := read?_of_writes hm nothing (by simp) rfl
  have readN : read? (w ++ []) = some n := read?_of_writes hn nothing (by simp) rfl
  exact Option.some.inj (readM.symm.trans readN)

/-! ### The number a numeral stands for -/

/-- The number a numeral stands for, of however many digits. -/
def number (n : Numeral) : Number :=
  match n.fraction, n.exponent with
  | none, none => .integer (Text.numberOf n.whole)
  | _, _ => .double (n.double false)

/-- An integer of more digits than are read. -/
def Oversized (n : Numeral) : Prop :=
  n.fraction = none ∧ n.exponent = none ∧ digitLimit < n.whole.length

theorem value?_eq_some {n : Numeral} {x : Number} (h : n.value? = some x) :
    x = n.number ∧ ¬ n.Oversized := by
  obtain ⟨whole, fraction, exponent⟩ := n
  cases fraction <;> cases exponent <;>
    simp_all [value?, number, Oversized, eq_comm]

theorem value?_eq_none {n : Numeral} (h : n.value? = none) : n.Oversized := by
  obtain ⟨whole, fraction, exponent⟩ := n
  cases fraction <;> cases exponent <;> simp_all [value?, Oversized]

/-- An integer of too many digits is what is written in digits alone, and in too many. -/
theorem oversized_iff {w : List Char} {n : Numeral} (h : Writes w n) :
    n.Oversized ↔ AllDigits w ∧ digitLimit < w.length := by
  obtain ⟨all, fractionWritten, exponentWritten, -⟩ := h
  constructor
  · rintro ⟨rfl, rfl, large⟩
    cases fractionWritten
    rw [writesExponent_none exponentWritten]
    exact ⟨by simpa using all, by simpa using large⟩
  · rintro ⟨digits, large⟩
    cases fractionWritten with
    | present => exact absurd (digits '.' (by simp)) (by decide)
    | absent =>
        cases exponentWritten with
        | @present mark _ _ marked =>
            have digit := digits mark (by simp)
            rw [isDigit_mark marked] at digit
            cases digit
        | absent => exact ⟨rfl, rfl, by simpa using large⟩

/-! ### Integers in decimal digits -/

theorem numberOf_concat (ds : List Char) (d : Char) :
    Text.numberOf (ds ++ [d]) = 10 * Text.numberOf ds + Text.digitValue d := by
  simp [Text.numberOf]

/-- The decimal digits of an integer are digits, and write it. -/
theorem digitsOf_spec (n : Nat) : AllDigits (Decimal.digitsOf n) ∧ Decimal.digitsOf n ≠ [] ∧
    Text.numberOf (Decimal.digitsOf n) = n := by
  have single : ∀ k < 10, Text.isDigit (Nat.digitChar k) = true ∧
      Text.digitValue (Nat.digitChar k) = k := by decide
  induction n using Nat.strongRecOn with
  | ind n ih =>
      by_cases short : n < 10
      · obtain ⟨digit, value⟩ := single n short
        rw [Decimal.digitsOf, Nat.toDigits_of_lt_base short]
        refine ⟨by simpa [AllDigits] using digit, by simp, ?_⟩
        simpa [Text.numberOf] using value
      · obtain ⟨digit, value⟩ := single (n % 10) (Nat.mod_lt n (by decide))
        obtain ⟨all, filled, written⟩ := ih (n / 10) (by omega)
        rw [Decimal.digitsOf] at all filled written
        rw [Decimal.digitsOf, Nat.toDigits_of_base_le (by decide) (by omega)]
        refine ⟨all.append (by simpa [AllDigits] using digit), by simp, ?_⟩
        rw [numberOf_concat, written, value]
        omega

end Cartography.Numeral
