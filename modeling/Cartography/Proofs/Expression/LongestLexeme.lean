import Cartography.Proofs.Expression.LexicalClass

/-!
# The longest token in front of a text

The reader of lexemes takes the longest token that a text starts with, and fails where the text
starts with none, or with an integer of more digits than are read.

## Implementation notes

Each class has its own reader, and each of these is set against the class alone. That no other
class has a longer token there follows from the first character.
-/

namespace Cartography.Lexeme

/-- The characters of the longest token that a text starts with, and that token. -/
structure Longest (cs w : List Char) (token : Token) : Prop where
  spells : Spells w token
  front : w <+: cs
  longest : ∀ w' token', Spells w' token' → w' <+: cs → w'.length ≤ w.length

/-- No token stands in front of a text. -/
def NoToken (cs : List Char) : Prop := ∀ w token, Spells w token → ¬ w <+: cs

/-- What tells the class of a token in front of a text is the first character of the text. -/
theorem lead_of_front {c : Char} {rest w : List Char} {token : Token} (h : Spells w token)
    (front : w <+: c :: rest) : leadOf token = lead c := by
  obtain ⟨d, others, rfl⟩ := List.exists_cons_of_ne_nil (ne_nil_of_spells h)
  obtain ⟨rfl, -⟩ := List.cons_prefix_cons.mp front
  exact (lead_of_spells h).symm

/-! ### Quoted texts -/

/-- A written body is read back, whatever follows it. -/
theorem body?_of_writes {quote : Char} (shown : quote ≠ '\\') {raw inner : List Char}
    (h : WritesBody quote raw inner) (more : List Char) :
    body? quote (raw ++ more) = some (inner, raw.length) := by
  induction h with
  | close =>
      rw [List.singleton_append, body?.eq_def]
      simp
  | escape escaped following ih =>
      rw [List.cons_append, List.cons_append, body?.eq_def]
      simp [shown.symm, ih]
  | plain other plain following ih =>
      rw [List.cons_append, body?.eq_def]
      simp [other, plain, ih]

/-- The body that is read is written in front of the text. -/
theorem exists_writesBody {quote : Char} {cs inner : List Char} {width : Nat}
    (read : body? quote cs = some (inner, width)) :
    ∃ raw more, cs = raw ++ more ∧ raw.length = width ∧ WritesBody quote raw inner := by
  fun_induction body? quote cs generalizing inner width with
  | case1 => cases read
  | case2 rest =>
      simp only [Option.some.injEq, Prod.mk.injEq] at read
      obtain ⟨rfl, rfl⟩ := read
      exact ⟨[quote], rest, rfl, rfl, .close⟩
  | case3 => cases read
  | case4 escaped others _ ih =>
      simp only [Option.map_eq_some_iff, Prod.exists, Prod.mk.injEq] at read
      obtain ⟨tail, taken, read, rfl, rfl⟩ := read
      obtain ⟨raw, more, rfl, rfl, written⟩ := ih read
      exact ⟨'\\' :: escaped :: raw, more, rfl, rfl, .escape escaped written⟩
  | case5 c rest other plain ih =>
      simp only [Option.map_eq_some_iff, Prod.exists, Prod.mk.injEq] at read
      obtain ⟨tail, taken, read, rfl, rfl⟩ := read
      obtain ⟨raw, more, rfl, rfl, written⟩ := ih read
      exact ⟨c :: raw, more, rfl, rfl, .plain other plain written⟩

/-! ### Operators -/

/-- The operator that is found is the longest in front of the text. -/
theorem operator?_eq_some {cs : List Char} {o : Operator} (found : operator? cs = some o) :
    o.symbol.toList <+: cs ∧
      ∀ o' : Operator, o'.symbol.toList <+: cs → o'.symbol.length ≤ o.symbol.length := by
  have sorted : Operator.all.Pairwise fun a b => b.symbol.length ≤ a.symbol.length := by decide
  rw [operator?, List.find?_eq_some_iff_append] at found
  obtain ⟨front, before, after, split, earlier⟩ := found
  refine ⟨List.isPrefixOf_iff_prefix.mp front, ?_⟩
  intro o' front'
  rw [split, List.pairwise_append] at sorted
  have listed : o' ∈ before ++ o :: after := split ▸ Operator.mem_all o'
  rcases List.mem_append.mp listed with h | h
  · have skipped := earlier o' h
    simp [List.isPrefixOf_iff_prefix.mpr front'] at skipped
  · rcases List.mem_cons.mp h with rfl | h
    · exact Nat.le_refl _
    · exact (List.pairwise_cons.mp sorted.2.1).1 o' h

/-- Where no operator is found, none stands in front of the text. -/
theorem operator?_eq_none {cs : List Char} (missing : operator? cs = none) (o : Operator) :
    ¬ o.symbol.toList <+: cs := by
  rw [operator?, List.find?_eq_none] at missing
  intro front
  exact missing o (Operator.mem_all o) (List.isPrefixOf_iff_prefix.mpr front)

/-! ### Tokens of one class -/

/-- Two tokens in front of one text are of one class. -/
theorem same_lead {cs w w' : List Char} {token token' : Token} (h : Spells w token)
    (front : w <+: cs) (h' : Spells w' token') (front' : w' <+: cs) :
    leadOf token' = leadOf token := by
  cases cs with
  | nil => exact absurd (List.prefix_nil.mp front) (ne_nil_of_spells h)
  | cons c rest => rw [lead_of_front h front, lead_of_front h' front']

theorem leadOf_of_punctuation? {c : Char} {token : Token} (found : punctuation? c = some token) :
    leadOf token = .mark := by
  rcases punctuation?_eq_some found with ⟨-, rfl⟩ | ⟨-, rfl⟩ | ⟨-, rfl⟩ <;> rfl

theorem ne_backslash_of_isQuote {quote : Char} (opens : isQuote quote = true) : quote ≠ '\\' := by
  rcases isQuote_iff.mp opens with rfl | rfl <;> decide

theorem longest_punctuation {c : Char} {token : Token} (found : punctuation? c = some token)
    (rest : List Char) : Longest (c :: rest) [c] token where
  spells := .punctuation found
  front := by simp
  longest := by
    intro w' token' h front
    have same := same_lead (.punctuation found) (by simp) h front
    rw [leadOf_of_punctuation? found] at same
    cases h with
    | punctuation => exact Nat.le_refl _
    | _ => cases same

theorem longest_quoted {quote : Char} {raw inner : List Char} (opens : isQuote quote = true)
    (body : WritesBody quote raw inner) (more : List Char) :
    Longest (quote :: (raw ++ more)) (quote :: raw) (.text (String.ofList inner)) where
  spells := .quoted opens body
  front := by simp
  longest := by
    intro w' token' h front
    have same := same_lead (.quoted opens body) (by simp) h front
    cases h with
    | quoted opens' body' =>
        obtain ⟨rfl, further, split⟩ := List.cons_prefix_cons.mp front
        have shown := ne_backslash_of_isQuote opens
        have read := body?_of_writes shown body more
        have read' := body?_of_writes shown body' further
        rw [split, read] at read'
        simp_all
    | punctuation found => cases (leadOf_of_punctuation? found).symm.trans same
    | _ => cases same

theorem longest_numeral {cs w : List Char} {n : Numeral} (read : Numeral.read? cs = some n)
    (writes : Numeral.Writes w n) (front : w <+: cs) : Longest cs w (.number n.number) where
  spells := .numeral writes
  front := front
  longest := by
    intro w' token' h front'
    have same := same_lead (.numeral writes) front h front'
    cases h with
    | numeral writes' =>
        obtain ⟨more, rfl⟩ := front'
        obtain ⟨m, read', le⟩ := Numeral.exists_read?_of_writes writes' more
        obtain rfl := Option.some.inj (read.symm.trans read')
        rwa [Numeral.length_of_writes writes, Numeral.length_of_writes writes']
    | punctuation found => cases (leadOf_of_punctuation? found).symm.trans same
    | _ => cases same

theorem longest_name {c : Char} (starts : isNameStart c = true) (rest : List Char) :
    Longest (c :: rest) (c :: rest.takeWhile isNamePart)
      (.name (String.ofList (c :: rest.takeWhile isNamePart))) := by
  have spells : Spells (c :: rest.takeWhile isNamePart)
      (.name (String.ofList (c :: rest.takeWhile isNamePart))) :=
    .name starts (List.all_eq_true.mp List.all_takeWhile)
  have front : c :: rest.takeWhile isNamePart <+: c :: rest := by
    simpa using List.takeWhile_prefix isNamePart
  refine ⟨spells, front, ?_⟩
  intro w' token' h front'
  have same := same_lead spells front h front'
  cases h with
  | name starts' parts =>
      obtain ⟨rfl, more, rfl⟩ := List.cons_prefix_cons.mp front'
      rw [List.takeWhile_append_of_pos parts]
      simp
  | punctuation found => cases (leadOf_of_punctuation? found).symm.trans same
  | _ => cases same

theorem longest_operator {cs : List Char} {o : Operator} (found : operator? cs = some o) :
    Longest cs o.symbol.toList (.operator o) := by
  obtain ⟨front, longest⟩ := operator?_eq_some found
  refine ⟨.operator o rfl, front, ?_⟩
  intro w' token' h front'
  have same := same_lead (.operator o rfl) front h front'
  cases h with
  | operator o' symbol =>
      subst symbol
      rw [String.length_toList, String.length_toList]
      exact longest o' front'
  | punctuation found => cases (leadOf_of_punctuation? found).symm.trans same
  | _ => cases same

/-! ### The reader -/

/-- Digits alone, and more of them than are read. -/
def Oversized (w : List Char) : Prop := Numeral.AllDigits w ∧ digitLimit < w.length

/-- Only a numeral is written in digits alone. -/
theorem not_oversized {w : List Char} {token : Token} (h : Spells w token)
    (other : leadOf token ≠ .digit) : ¬ Oversized w := by
  rintro ⟨digits, -⟩
  obtain ⟨c, cs, rfl⟩ := List.exists_cons_of_ne_nil (ne_nil_of_spells h)
  apply other
  rw [← lead_of_spells h]
  exact lead_of_isDigit (digits c (List.mem_cons_self ..))

/-- What comes of reading in front of a text: its longest token, a failure over an integer of too
many digits, or one where no token stands. -/
inductive ReadsAs (position : Nat) (cs : List Char) : Except Rejection Lexeme → Prop
  | token {w : List Char} {lexeme : Lexeme} (longest : Longest cs w lexeme.token)
      (width : w.length = lexeme.width) (small : ¬ Oversized w) :
      ReadsAs position cs (.ok lexeme)
  | oversized {w : List Char} {token : Token} (longest : Longest cs w token)
      (large : Oversized w) : ReadsAs position cs (.error (.oversizedInteger w.length))
  | nothing {fault : Fault} (nothing : NoToken cs) :
      ReadsAs position cs (.error (.faulty fault position))

/-- A quote that is never closed starts no token. -/
theorem noToken_of_unclosed {quote : Char} {rest : List Char} (opens : isQuote quote = true)
    (missing : body? quote rest = none) : NoToken (quote :: rest) := by
  intro w token h front
  have same := (lead_of_front h front).trans (lead_of_isQuote opens)
  cases h with
  | quoted _ body =>
      obtain ⟨rfl, more, rfl⟩ := List.cons_prefix_cons.mp front
      rw [body?_of_writes (ne_backslash_of_isQuote opens) body] at missing
      cases missing
  | punctuation found => cases (leadOf_of_punctuation? found).symm.trans same
  | _ => cases same

/-- Where no class has its start, no token stands. -/
theorem noToken_of_none {c : Char} {rest : List Char} (unmarked : punctuation? c = none)
    (unquoted : ¬ isQuote c = true) (unread : Numeral.read? (c :: rest) = none)
    (unstarted : ¬ isNameStart c = true) (absent : operator? (c :: rest) = none) :
    NoToken (c :: rest) := by
  intro w token h front
  cases h with
  | punctuation found =>
      obtain ⟨rfl, -⟩ := List.cons_prefix_cons.mp front
      rw [unmarked] at found
      cases found
  | quoted opens _ =>
      obtain ⟨rfl, -⟩ := List.cons_prefix_cons.mp front
      exact unquoted opens
  | numeral writes =>
      obtain ⟨more, split⟩ := front
      obtain ⟨m, read, -⟩ := Numeral.exists_read?_of_writes writes more
      rw [split, unread] at read
      cases read
  | name starts _ =>
      obtain ⟨rfl, -⟩ := List.cons_prefix_cons.mp front
      exact unstarted starts
  | operator o symbol =>
      subst symbol
      exact operator?_eq_none absent o front

/-- A numeral without a value that is read is an integer of too many digits. -/
theorem readsAs_oversized (position : Nat) {cs : List Char} {n : Numeral}
    (read : Numeral.read? cs = some n) (missing : n.value? = none) :
    ReadsAs position cs (.error (.oversizedInteger n.whole.length)) := by
  obtain ⟨w, more, split, writes⟩ := Numeral.exists_writes_of_read? read
  have large := (Numeral.oversized_iff writes).mp (Numeral.value?_eq_none missing)
  obtain ⟨unpointed, plain, -⟩ := Numeral.value?_eq_none missing
  have whole : w.length = n.whole.length := by
    rw [Numeral.length_of_writes writes, Numeral.width, unpointed, plain]
    rfl
  rw [← whole]
  exact .oversized (longest_numeral read writes ⟨more, split.symm⟩) large

/-- The reader takes the longest token, unless that is an integer of too many digits. -/
theorem readsAs (position : Nat) (c : Char) (rest : List Char) :
    ReadsAs position (c :: rest) (read position c rest) := by
  fun_cases read position c rest with
  | case1 token found =>
      have longest := longest_punctuation found rest
      refine .token longest rfl (not_oversized longest.spells ?_)
      rw [leadOf_of_punctuation? found]
      decide
  | case2 unmarked opens inner width body =>
      obtain ⟨raw, more, rfl, rfl, written⟩ := exists_writesBody body
      have longest := longest_quoted opens written more
      exact .token longest rfl (not_oversized longest.spells (by simp [leadOf]))
  | case3 unmarked opens missing => exact .nothing (noToken_of_unclosed opens missing)
  | case4 unmarked unquoted n read x value =>
      obtain ⟨w, more, split, writes⟩ := Numeral.exists_writes_of_read? read
      obtain ⟨rfl, small⟩ := Numeral.value?_eq_some value
      refine .token (longest_numeral read writes ⟨more, split.symm⟩)
        (Numeral.length_of_writes writes) ?_
      exact fun large => small ((Numeral.oversized_iff writes).mpr large)
  | case5 unmarked unquoted n read missing => exact readsAs_oversized position read missing
  | case6 unmarked unquoted missing starts =>
      have longest := longest_name starts rest
      exact .token longest rfl (not_oversized longest.spells (by simp [leadOf]))
  | case7 unmarked unquoted missing unstarted o found =>
      have longest := longest_operator found
      refine .token longest String.length_toList (not_oversized longest.spells (by simp [leadOf]))
  | case8 unmarked unquoted unread unstarted absent =>
      exact .nothing (noToken_of_none unmarked unquoted unread unstarted absent)

/-! ### One token -/

/-- No text is two tokens. -/
theorem spells_unique {w : List Char} {token token' : Token} (h : Spells w token)
    (h' : Spells w token') : token = token' := by
  have same := same_lead h (List.prefix_refl w) h' (List.prefix_refl w)
  cases h with
  | punctuation found =>
      cases h' with
      | punctuation found' => exact Option.some.inj (found.symm.trans found')
      | _ => cases (leadOf_of_punctuation? found).symm.trans same.symm
  | quoted opens body =>
      cases h' with
      | quoted _ body' =>
          have shown := ne_backslash_of_isQuote opens
          have read := body?_of_writes shown body []
          rw [body?_of_writes shown body' []] at read
          simp_all
      | punctuation found => cases (leadOf_of_punctuation? found).symm.trans same
      | _ => cases same
  | numeral writes =>
      cases h' with
      | numeral writes' => rw [Numeral.writes_unique writes writes']
      | punctuation found => cases (leadOf_of_punctuation? found).symm.trans same
      | _ => cases same
  | name starts parts =>
      cases h' with
      | name => rfl
      | punctuation found => cases (leadOf_of_punctuation? found).symm.trans same
      | _ => cases same
  | operator o symbol =>
      cases h' with
      | operator o' symbol' =>
          have injective : ∀ a ∈ Operator.all, ∀ b ∈ Operator.all,
              a.symbol.toList = b.symbol.toList → a = b := by decide
          rw [injective o (Operator.mem_all o) o' (Operator.mem_all o') (symbol.symm.trans symbol')]
      | punctuation found => cases (leadOf_of_punctuation? found).symm.trans same
      | _ => cases same

/-- A text starts with one longest token. -/
theorem Longest.unique {cs w w' : List Char} {token token' : Token} (h : Longest cs w token)
    (h' : Longest cs w' token') : w = w' ∧ token = token' := by
  have sameLength : w.length = w'.length :=
    Nat.le_antisymm (h'.longest w token h.spells h.front) (h.longest w' token' h'.spells h'.front)
  have same : w = w' :=
    (List.prefix_of_prefix_length_le h.front h'.front (Nat.le_of_eq sameLength)).eq_of_length
      sameLength
  subst same
  exact ⟨rfl, spells_unique h.spells h'.spells⟩

/-- The longest token in front of a text is what is read there. -/
theorem exists_read_of_longest {c : Char} {rest w : List Char} {token : Token}
    (longest : Longest (c :: rest) w token) (small : ¬ Oversized w) (position : Nat) :
    ∃ lexeme, read position c rest = .ok lexeme ∧ lexeme.token = token ∧
      lexeme.width = w.length := by
  have outcome := readsAs position c rest
  generalize read position c rest = result at outcome
  cases outcome with
  | token longest' width _ =>
      obtain ⟨rfl, rfl⟩ := longest.unique longest'
      exact ⟨_, rfl, rfl, width.symm⟩
  | oversized longest' large =>
      obtain ⟨rfl, -⟩ := longest.unique longest'
      exact absurd large small
  | nothing nothing => exact absurd longest.front (nothing _ _ longest.spells)

end Cartography.Lexeme
