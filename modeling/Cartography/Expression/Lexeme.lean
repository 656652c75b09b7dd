import Cartography.Expression.Rejection
import Cartography.Number.Numeral

/-!
# Lexemes

Reading one token at the head of a text: the token and how many characters it takes. Each
reader takes the longest run of characters that belongs to its class.
-/

namespace Cartography

/-- A token and the number of characters it was read from. -/
structure Lexeme where
  token : Token
  width : Nat
  width_pos : 0 < width := by omega

namespace Lexeme

/-! ### Quoted texts -/

/-- The character an escape stands for; one without a meaning of its own stands for itself. -/
def unescape : Char → Char
  | 'n' => '\n'
  | 't' => '\t'
  | 'r' => '\r'
  | c => c

/-- The text up to the first quote that no backslash hides, and the characters taken, that quote
included. -/
def body? (quote : Char) : List Char → Option (List Char × Nat)
  | [] => none
  | c :: rest =>
      if c = quote then some ([], 1)
      else if c = '\\' then
        match rest with
        | [] => none
        | escaped :: others =>
            (body? quote others).map fun (inner, width) => (unescape escaped :: inner, width + 2)
      else (body? quote rest).map fun (inner, width) => (c :: inner, width + 1)

/-- Whether a character opens a quoted text. -/
def isQuote (c : Char) : Bool := c == '"' || c == '\''

/-! ### Names -/

/-- Whether a name can start with a character. -/
def isNameStart (c : Char) : Bool := ('A' ≤ c && c ≤ 'Z') || ('a' ≤ c && c ≤ 'z') || c == '_'

/-- Whether a name can go on with a character. -/
def isNamePart (c : Char) : Bool := isNameStart c || Text.isAsciiDigit c

/-! ### Operators -/

/-- The first operator of the list that a text starts with. -/
def operator? (cs : List Char) : Option Operator :=
  Operator.all.find? fun o => o.symbol.toList.isPrefixOf cs

/-! ### All together -/

/-- The bracket or comma a character is. -/
def punctuation? : Char → Option Token
  | '(' => some .opening
  | ')' => some .closing
  | ',' => some .comma
  | _ => none

/-- The lexeme at the head of a text that starts with `c` and stands at `position`. -/
def read (position : Nat) (c : Char) (rest : List Char) : Except Rejection Lexeme :=
  match punctuation? c with
  | some token => .ok ⟨token, 1, by omega⟩
  | none =>
    if isQuote c then
      match body? c rest with
      | some (inner, width) => .ok ⟨.text (String.ofList inner), width + 1, by omega⟩
      | none => .error (.faulty .unterminatedText position)
    else
      match h : Numeral.read? (c :: rest) with
      | some numeral =>
          match numeral.value? with
          | some n => .ok ⟨.number n, numeral.width, Numeral.width_pos_of_read? h⟩
          | none => .error (.oversizedInteger numeral.whole.length)
      | none =>
        if isNameStart c then
          let others := rest.takeWhile isNamePart
          .ok ⟨.name (String.ofList (c :: others)), others.length + 1, by omega⟩
        else
          match operator? (c :: rest) with
          | some o => .ok ⟨.operator o, o.symbol.length, o.symbol_length_pos⟩
          | none => .error (.faulty (.unexpectedCharacter c) position)

end Lexeme

end Cartography
