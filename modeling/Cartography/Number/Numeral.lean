import Cartography.Number.Basic
import Cartography.Text.Digit

/-!
# Numerals

The written form of a number without its sign: digits of any script, an optional fraction and
an optional exponent.
-/

namespace Cartography

/-- The digits of a numeral as they are written. -/
structure Numeral where
  whole : List Char
  fraction : Option (List Char)
  exponent : Option (Option Char × List Char)

namespace Numeral

/-- The characters of the sign and digits of an exponent, and of its mark. -/
def exponentWidth : Option (Option Char × List Char) → Nat
  | none => 0
  | some (sign, digits) => 1 + sign.toList.length + digits.length

/-- The characters of a point and the digits behind it. -/
def fractionWidth : Option (List Char) → Nat
  | none => 0
  | some digits => 1 + digits.length

/-- The characters of a numeral. -/
def width (n : Numeral) : Nat :=
  n.whole.length + fractionWidth n.fraction + exponentWidth n.exponent

/-- The digits in front of a text. -/
def leadingDigits (cs : List Char) : List Char := cs.takeWhile Text.isDigit

/-- The exponent in front of a text. Without a digit there is none. -/
def exponent? : List Char → Option (Option Char × List Char)
  | mark :: rest =>
      if mark = 'e' ∨ mark = 'E' then
        let (sign, digits) := match rest with
          | '+' :: others => (some '+', leadingDigits others)
          | '-' :: others => (some '-', leadingDigits others)
          | others => (none, leadingDigits others)
        if digits.isEmpty then none else some (sign, digits)
      else none
  | [] => none

/-- The numeral in front of a text: digits with an optional fraction, or a point and digits,
and in either case an optional exponent. -/
def read? (cs : List Char) : Option Numeral :=
  let whole := leadingDigits cs
  match cs.drop whole.length with
  | '.' :: rest =>
      let fraction := leadingDigits rest
      if whole.isEmpty && fraction.isEmpty then none
      else some ⟨whole, some fraction, exponent? (rest.drop fraction.length)⟩
  | rest => if whole.isEmpty then none else some ⟨whole, none, exponent? rest⟩

/-- The power of ten an exponent writes. -/
def exponentValue : Option (Option Char × List Char) → Int
  | none => 0
  | some (sign, digits) => Double.signed (sign == some '-') (Text.numberOf digits)

/-- The double a numeral stands for. -/
def double (n : Numeral) (negative : Bool) : Double :=
  let behind := n.fraction.getD []
  .ofDecimal negative (Text.numberOf (n.whole ++ behind))
    (exponentValue n.exponent - behind.length)

/-- The number a numeral stands for: an integer if it has neither point nor exponent, and then
one of no more digits than are read. -/
def value? (n : Numeral) : Option Number :=
  match n.fraction, n.exponent with
  | none, none =>
      if n.whole.length ≤ digitLimit then some (.integer (Text.numberOf n.whole)) else none
  | _, _ => some (.double (n.double false))

theorem width_pos_of_read? {cs : List Char} {n : Numeral} (h : read? cs = some n) :
    0 < n.width := by
  unfold read? at h
  simp only at h
  split at h
  · split at h
    · simp at h
    · simp only [Option.some.injEq] at h
      subst h
      simp only [width, fractionWidth]
      omega
  · split at h
    · simp at h
    · rename_i nonempty
      simp only [Option.some.injEq] at h
      subst h
      have : 0 < (leadingDigits cs).length := by
        rw [List.length_pos_iff]
        simpa using nonempty
      simp only [width]
      omega

end Numeral

/-- The double a text writes: a numeral that fills it, or one of the names of the doubles that
are not finite, behind an optional minus sign. -/
def Double.ofText? (s : String) : Option Double :=
  let (negative, cs) := match s.toList with
    | '-' :: rest => (true, rest)
    | cs => (false, cs)
  if cs = "inf".toList then some (.infinite negative)
  else if cs = "nan".toList then some .undefined
  else match Numeral.read? cs with
    | some numeral =>
        if numeral.width = cs.length then some (numeral.double negative) else none
    | none => none

end Cartography
