import Cartography.Proofs.Expression.LongestLexeme

/-!
# Texts in quotes

What stands behind an opening quote falls into pieces from left to right: a backslash makes one
with the character behind it, and any other character is one by itself. The text ends at the first
quote that is a piece by itself, and each piece in front of it stands for one character. Without
such a quote the text does not end.

## Implementation notes

A backslash at the very end is a piece by itself. It is no quote, so it needs no case of its own in
what is said about pieces.
-/

namespace Cartography.Lexeme

/-- A character by itself, or one with a backslash in front. -/
inductive Piece
  | single (c : Char)
  | pair (escaped : Char)
  deriving DecidableEq

namespace Piece

/-- The characters of a piece. -/
def chars : Piece → List Char
  | single c => [c]
  | pair escaped => ['\\', escaped]

/-- The character that a piece stands for. -/
def value : Piece → Char
  | single c => c
  | pair escaped =>
      if escaped = 'n' then '\n'
      else if escaped = 't' then '\t'
      else if escaped = 'r' then '\r'
      else escaped

end Piece

/-- The pieces of a text: each backslash is paired with the character behind it, from left to
right. -/
def pieces : List Char → List Piece
  | [] => []
  | [c] => [.single c]
  | c :: d :: rest => if c = '\\' then .pair d :: pieces rest else .single c :: pieces (d :: rest)

/-! ### Pieces -/

theorem pieces_single {c : Char} (shown : c ≠ '\\') (rest : List Char) :
    pieces (c :: rest) = .single c :: pieces rest := by
  cases rest with
  | nil => rfl
  | cons d rest => rw [pieces, if_neg shown]

theorem pieces_pair (escaped : Char) (rest : List Char) :
    pieces ('\\' :: escaped :: rest) = .pair escaped :: pieces rest := by
  rw [pieces, if_pos rfl]

/-- The pieces of a text make it up. -/
theorem flatMap_chars_pieces (cs : List Char) : (pieces cs).flatMap Piece.chars = cs := by
  fun_induction pieces cs with
  | case1 => rfl
  | case2 c => rfl
  | case3 d rest ih => rw [List.flatMap_cons, ih]; rfl
  | case4 c d rest shown ih => rw [List.flatMap_cons, ih]; rfl

theorem value_pair (escaped : Char) : (Piece.pair escaped).value = unescape escaped := by
  fun_cases unescape escaped with
  | case1 => rfl
  | case2 => rfl
  | case3 => rfl
  | case4 _ n t r => rw [Piece.value, if_neg n, if_neg t, if_neg r]

/-! ### The end of a text -/

/-- A text is read as far as the first quote by itself. -/
theorem body?_of_first {quote : Char} (shown : quote ≠ '\\') {cs : List Char}
    {inside after : List Piece} (parted : pieces cs = inside ++ .single quote :: after)
    (first : .single quote ∉ inside) :
    body? quote cs = some (inside.map Piece.value, (inside.flatMap Piece.chars).length + 1) := by
  fun_induction body? quote cs generalizing inside with
  | case1 => simp [pieces] at parted
  | case2 rest =>
      rw [pieces_single shown] at parted
      cases inside with
      | nil => rfl
      | cons piece inside =>
          obtain ⟨rfl, -⟩ := List.cons.inj parted
          exact absurd (List.mem_cons_self ..) first
  | case3 =>
      cases inside with
      | nil =>
          obtain ⟨same, -⟩ := List.cons.inj parted
          exact absurd (Piece.single.inj same).symm shown
      | cons piece inside => simp [pieces] at parted
  | case4 escaped others _ ih =>
      rw [pieces_pair] at parted
      cases inside with
      | nil => cases parted
      | cons piece inside =>
          obtain ⟨rfl, further⟩ := List.cons.inj parted
          rw [ih further fun member => first (List.mem_cons_of_mem _ member)]
          simp [value_pair, Piece.chars]
  | case5 c rest other plain ih =>
      rw [pieces_single plain] at parted
      cases inside with
      | nil =>
          obtain ⟨same, -⟩ := List.cons.inj parted
          exact absurd (Piece.single.inj same) other
      | cons piece inside =>
          obtain ⟨rfl, further⟩ := List.cons.inj parted
          rw [ih further fun member => first (List.mem_cons_of_mem _ member)]
          simp [Piece.value, Piece.chars]

/-- A text without a quote by itself is not read. -/
theorem body?_of_absent {quote : Char} (shown : quote ≠ '\\') {cs : List Char}
    (absent : .single quote ∉ pieces cs) : body? quote cs = none := by
  fun_induction body? quote cs with
  | case1 => rfl
  | case2 rest =>
      rw [pieces_single shown] at absent
      exact absurd (List.mem_cons_self ..) absent
  | case3 => rfl
  | case4 escaped others _ ih =>
      rw [pieces_pair] at absent
      rw [ih fun member => absent (List.mem_cons_of_mem _ member), Option.map_none]
  | case5 c rest other plain ih =>
      rw [pieces_single plain] at absent
      rw [ih fun member => absent (List.mem_cons_of_mem _ member), Option.map_none]

/-! ### Putting texts in quotes -/

/-- A text with a backslash in front of each backslash and of each quote. -/
def escaped (quote : Char) (cs : List Char) : List Char :=
  cs.flatMap fun c => if c = quote ∨ c = '\\' then ['\\', c] else [c]

/-- A text with its backslashes and quotes escaped is written as it is read. -/
theorem writesBody_escaped {quote : Char} (opens : isQuote quote = true) (cs : List Char) :
    WritesBody quote (escaped quote cs ++ [quote]) cs := by
  induction cs with
  | nil => exact .close
  | cons c rest ih =>
      by_cases hidden : c = quote ∨ c = '\\'
      · have itself : unescape c = c := by
          rcases isQuote_iff.mp opens with rfl | rfl <;> rcases hidden with rfl | rfl <;> rfl
        have step := WritesBody.escape c ih
        rw [itself] at step
        simpa [escaped, hidden] using step
      · obtain ⟨other, shown⟩ := not_or.mp hidden
        simpa [escaped, other, shown] using WritesBody.plain other shown ih

/-! ### Reading a text in quotes -/

theorem punctuation?_of_isQuote {quote : Char} (opens : isQuote quote = true) :
    punctuation? quote = none := by
  rcases isQuote_iff.mp opens with rfl | rfl <;> rfl

/-- A quote stands for the text that is read behind it. -/
theorem read_of_body {quote : Char} (opens : isQuote quote = true) (position : Nat)
    {rest inner : List Char} {width : Nat} (body : body? quote rest = some (inner, width)) :
    read position quote rest =
      .ok ⟨.text (String.ofList inner), width + 1, Nat.succ_pos width⟩ := by
  rw [read, punctuation?_of_isQuote opens]
  simp only [opens, if_true, body]

/-- A quote that nothing closes is turned down where it stands. -/
theorem read_of_unclosed {quote : Char} (opens : isQuote quote = true) (position : Nat)
    {rest : List Char} (missing : body? quote rest = none) :
    read position quote rest = .error (.faulty .unterminatedText position) := by
  rw [read, punctuation?_of_isQuote opens]
  simp only [opens, if_true, missing]

/-- **Texts in quotes are decoded exactly.** From an opening quote on a text is read if and only if
the same quote is among the pieces behind it by itself. The first of these ends the text, and the
pieces in front of it are its characters. Without one the text is turned down at the place of the
opening quote. So any text at all can be put in quotes and is read back, wherever it stands. -/
theorem read_quoted {source : String} {start : Nat} {quote : Char} {rest : List Char}
    (opens : isQuote quote = true) (here : source.toList.drop start = quote :: rest) :
    ((∃ lexeme, read start quote rest = .ok lexeme) ↔ .single quote ∈ pieces rest) ∧
      (∀ inside after, pieces rest = inside ++ .single quote :: after → .single quote ∉ inside →
        ∃ lexeme, read start quote rest = .ok lexeme ∧
          lexeme.token = .text (String.ofList (inside.map Piece.value)) ∧
          lexeme.width = (inside.flatMap Piece.chars).length + 2 ∧
          source.toList.drop (start + lexeme.width) = after.flatMap Piece.chars) ∧
      (.single quote ∉ pieces rest → ∃ fault,
        read start quote rest = .error (.faulty fault start) ∧
          fault.message = "Unterminated string literal") ∧
      ∀ (s : String) (position : Nat) (behind : List Char), ∃ lexeme,
        read position quote (escaped quote s.toList ++ quote :: behind) = .ok lexeme ∧
          lexeme.token = .text s ∧ lexeme.width = (escaped quote s.toList).length + 2 := by
  have shown := ne_backslash_of_isQuote opens
  have found (inside after : List Piece) (parted : pieces rest = inside ++ .single quote :: after)
      (first : .single quote ∉ inside) : ∃ lexeme, read start quote rest = .ok lexeme ∧
        lexeme.token = .text (String.ofList (inside.map Piece.value)) ∧
        lexeme.width = (inside.flatMap Piece.chars).length + 2 ∧
        source.toList.drop (start + lexeme.width) = after.flatMap Piece.chars := by
    rw [read_of_body opens start (body?_of_first shown parted first)]
    refine ⟨_, rfl, rfl, rfl, ?_⟩
    have whole : rest = inside.flatMap Piece.chars ++ quote :: after.flatMap Piece.chars := by
      rw [← flatMap_chars_pieces rest, parted, List.flatMap_append, List.flatMap_cons]
      rfl
    have behind : rest.drop ((inside.flatMap Piece.chars).length + 1) =
        after.flatMap Piece.chars := by
      rw [whole, ← List.singleton_append, ← List.append_assoc]
      exact List.drop_left' (by simp)
    rw [← List.drop_drop, here]
    exact behind
  have missing (absent : .single quote ∉ pieces rest) :
      read start quote rest = .error (.faulty .unterminatedText start) :=
    read_of_unclosed opens start (body?_of_absent shown absent)
  refine ⟨⟨?_, ?_⟩, found, fun absent => ⟨_, missing absent, rfl⟩, ?_⟩
  · rintro ⟨lexeme, decoded⟩
    apply Decidable.byContradiction
    intro absent
    rw [missing absent] at decoded
    cases decoded
  · intro member
    obtain ⟨inside, after, parted, first⟩ := List.eq_append_cons_of_mem member
    obtain ⟨lexeme, decoded, -⟩ := found inside after parted first
    exact ⟨lexeme, decoded⟩
  · intro s position behind
    have body := body?_of_writes shown (writesBody_escaped opens s.toList) behind
    rw [List.append_assoc, List.singleton_append] at body
    rw [read_of_body opens position body]
    exact ⟨_, rfl, by rw [String.ofList_toList], by simp⟩

/-- Three backslashes in front of a quote hide it, so that the text ends at the quote behind it. -/
theorem read_quoted_behind_backslashes :
    let source := "x \"\\\\\\\"\" y"
    let rest := ['\\', '\\', '\\', '"', '"', ' ', 'y']
    isQuote '"' = true ∧ source.toList.drop 2 = '"' :: rest ∧
      pieces rest = [.pair '\\', .pair '"'] ++ .single '"' :: [.single ' ', .single 'y'] ∧
      ∃ lexeme, read 2 '"' rest = .ok lexeme ∧ lexeme.token = .text "\\\"" ∧
        lexeme.width = 6 ∧ source.toList.drop (2 + lexeme.width) = [' ', 'y'] := by
  intro source rest
  have here : source.toList.drop 2 = '"' :: rest := by decide
  have parted : pieces rest =
      [.pair '\\', .pair '"'] ++ .single '"' :: [.single ' ', .single 'y'] := by decide
  have opens : isQuote '"' = true := rfl
  have decoded := (read_quoted opens here).2.1 _ _ parted (by decide)
  exact ⟨opens, here, parted, decoded⟩

end Cartography.Lexeme
