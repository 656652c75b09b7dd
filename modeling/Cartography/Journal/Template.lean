import Cartography.Number.Fixed
import Cartography.Number.Numeral
import Cartography.Value.Display

/-!
# Message templates

A template is a text with directives, each a percent sign, flags, a width, a precision and a
letter that says how an argument is written; a percent sign is written twice. Filling a template
uses its arguments in order, or by name out of a single mapping; it fails if an argument is
missing, left over or of the wrong kind.
-/

namespace Cartography.Template

/-- How an argument is written. -/
structure Directive where
  key : Option String
  flags : List Char
  width : Option Int
  precision : Option Int
  letter : Char

/-- The arguments that are not used yet, and the mapping that names are looked up in. -/
structure Arguments where
  rest : List Value
  names : Option Fields

/-- The arguments of a record: a single mapping with entries gives names. -/
def Arguments.ofList : List Value → Arguments
  | [.mapping (entry :: entries)] => ⟨[.mapping (entry :: entries)], some (entry :: entries)⟩
  | arguments => ⟨arguments, none⟩

/-- The next argument. -/
def Arguments.next (a : Arguments) : Option (Value × Arguments) :=
  match a.rest with
  | [] => none
  | value :: rest => some (value, { a with rest })

/-- Whether nothing is left over. -/
def Arguments.settled (a : Arguments) : Bool := a.rest.isEmpty || a.names.isSome

/-! ### Reading directives -/

/-- Whether a character is a flag. -/
def isFlag (c : Char) : Bool := ['-', '+', ' ', '#', '0'].contains c

/-- The key between brackets, which may hold balanced ones, and what follows it. -/
def readKey (depth : Nat) : List Char → Option (List Char × List Char)
  | [] => none
  | '(' :: rest => (readKey (depth + 1) rest).map fun (key, after) => ('(' :: key, after)
  | ')' :: rest =>
      if depth = 0 then some ([], rest)
      else (readKey (depth - 1) rest).map fun (key, after) => (')' :: key, after)
  | c :: rest => (readKey depth rest).map fun (key, after) => (c :: key, after)

/-- A number as a size. One that takes more than 32 bits is none. -/
def sizeOf? (i : Int) : Option Int := if -Int.pow 2 31 ≤ i ∧ i < Int.pow 2 31 then some i else none

/-- A size: digits, a star that takes an argument, or nothing. -/
def readSize (cs : List Char) (a : Arguments) : Option (Option Int × List Char × Arguments) :=
  match cs with
  | '*' :: rest =>
      match a.next with
      | some (.integer i, a) => (sizeOf? i).map fun size => (some size, rest, a)
      | some (.bool b, a) => some (some (if b then 1 else 0), rest, a)
      | _ => none
  | _ =>
      let digits := cs.takeWhile Text.isAsciiDigit
      if digits.isEmpty then some (none, cs, a)
      else (sizeOf? (Text.numberOf digits)).map fun size =>
        (some size, cs.drop digits.length, a)

/-- The precision behind a point; a point alone means zero. -/
def readPrecision (cs : List Char) (a : Arguments) :
    Option (Option Int × List Char × Arguments) :=
  match cs with
  | '.' :: rest => (readSize rest a).map fun (size, after, a) => (some (size.getD 0), after, a)
  | _ => some (none, cs, a)

/-- The characters behind a length mark, which means nothing. -/
def skipLength : List Char → List Char
  | c :: rest => if c = 'h' ∨ c = 'l' ∨ c = 'L' then rest else c :: rest
  | [] => []

/-- The arguments after a key has been looked up: its value alone. -/
def select (a : Arguments) : Option String → Option Arguments
  | none => some a
  | some key =>
      match a.names with
      | some fields => (fields.get? key).map fun value => { a with rest := [value] }
      | none => none

/-- The directive behind a percent sign, what follows it, and the arguments left. -/
def readDirective (cs : List Char) (a : Arguments) :
    Option (Directive × List Char × Arguments) := do
  let (key, cs) ← match cs with
    | '(' :: rest => (readKey 0 rest).map fun (key, after) => (some (String.ofList key), after)
    | _ => some (none, cs)
  let a ← select a key
  let flags := cs.takeWhile isFlag
  let (width, cs, a) ← readSize (cs.drop flags.length) a
  let (precision, cs, a) ← readPrecision cs a
  match skipLength cs with
  | letter :: rest => some (⟨key, flags, width, precision, letter⟩, rest, a)
  | [] => none

/-! ### Writing arguments -/

namespace Directive

/-- Whether a flag is given. -/
def has (d : Directive) (flag : Char) : Bool := d.flags.contains flag

/-- Whether the argument goes to the left of its width. -/
def goesLeft (d : Directive) : Bool := d.has '-' || d.width.any (· < 0)

/-- The width as a count of characters. -/
def columns (d : Directive) : Nat := (d.width.getD 0).natAbs

/-- The precision as a count, or a default. -/
def digitsOr (d : Directive) (default : Nat) : Nat :=
  match d.precision with
  | some p => p.toNat
  | none => default

/-- A text in its width. -/
def pad (d : Directive) (cs : List Char) : List Char :=
  let blanks := List.replicate (d.columns - cs.length) ' '
  if d.goesLeft then cs ++ blanks else blanks ++ cs

/-- A text cut to the precision, in its width. -/
def textBody (d : Directive) (s : String) : List Char :=
  match d.precision with
  | some p => d.pad (s.toList.take p.toNat)
  | none => d.pad s.toList

/-- A number in its width: zeros go between its sign and mark and its digits, blanks around it. -/
def numberBody (d : Directive) (negative : Bool) (mark digits : List Char) : List Char :=
  let sign := if negative then ['-'] else if d.has '+' then ['+'] else if d.has ' ' then [' ']
    else []
  let lead := sign ++ mark
  if d.has '0' && !d.goesLeft then
    lead ++ Decimal.zeros (d.columns - lead.length - digits.length) ++ digits
  else d.pad (lead ++ digits)

/-- The digits of an integer in a base, filled up with zeros to the precision. -/
def integerDigits (d : Directive) (base : Nat) (i : Int) : List Char :=
  Decimal.padLeft (d.digitsOr 0) (Nat.toDigits base i.natAbs)

/-- The integer an argument stands for where a whole number is written in decimal. -/
def wholeOf : Value → Option Int
  | .integer i => some i
  | .bool b => some (if b then 1 else 0)
  | .double x => x.truncate?
  | _ => none

/-- The integer an argument is. -/
def exactWhole : Value → Option Int
  | .integer i => some i
  | .bool b => some (if b then 1 else 0)
  | _ => none

/-- The double an argument stands for, if it is in the range of doubles. -/
def doubleOf : Value → Option Double
  | .double x => some x
  | .integer i =>
      match Double.ofRatio (i < 0) i.natAbs 1 with
      | .infinite _ => none
      | x => some x
  | .bool b => some (Double.ofRatio false (if b then 1 else 0) 1)
  | _ => none

/-- A number in decimal. -/
def decimalText (d : Directive) (value : Value) : Option (List Char) := do
  let i ← wholeOf value
  let _ ← integerText? i
  return d.numberBody (i < 0) [] (d.integerDigits 10 i)

/-- A number in another base, with its mark if that is asked for. -/
def baseText (d : Directive) (base : Nat) (mark : List Char) (value : Value) :
    Option (List Char) := do
  let i ← exactWhole value
  return d.numberBody (i < 0) (if d.has '#' then mark else []) (d.integerDigits base i)

/-- A double with a precision, six where none is given. -/
def doubleText (d : Directive) (write : Bool → Nat → Nat → Int → List Char) (value : Value) :
    Option (List Char) := do
  match ← doubleOf value with
  | .finite negative significand exponent =>
      return d.numberBody negative [] (write (d.has '#') (d.digitsOr 6) significand exponent)
  | .infinite negative => return d.numberBody negative [] ['i', 'n', 'f']
  | .undefined => return d.numberBody false [] ['n', 'a', 'n']

/-- A single character: given as such or by its code point. -/
def characterText (d : Directive) : Value → Option (List Char)
  | .text s => if s.length = 1 then some (d.pad s.toList) else none
  | value => do
      let i ← exactWhole value
      if 0 ≤ i ∧ i < 0x110000 then some (d.pad [Char.ofNat i.toNat]) else none

/-- A text with every character beyond ASCII escaped. -/
def asciiOnly (s : String) : String :=
  String.ofList (s.toList.flatMap fun c => if c.toNat < 0x80 then [c] else Text.hexEscape c)

/-- Letters in capitals. -/
def capitals (cs : List Char) : List Char := cs.map Char.toUpper

/-- What a directive makes of an argument. -/
def write (d : Directive) (value : Value) : Option (List Char) :=
  match d.letter with
  | 's' => value.plain?.map d.textBody
  | 'r' => value.literal?.map d.textBody
  | 'a' => value.literal?.map fun s => d.textBody (asciiOnly s)
  | 'd' | 'i' | 'u' => d.decimalText value
  | 'o' => d.baseText 8 ['0', 'o'] value
  | 'x' => d.baseText 16 ['0', 'x'] value
  | 'X' => (d.baseText 16 ['0', 'x'] value).map capitals
  | 'e' => d.doubleText Fixed.scientific value
  | 'E' => (d.doubleText Fixed.scientific value).map capitals
  | 'f' => d.doubleText Fixed.places value
  | 'F' => (d.doubleText Fixed.places value).map capitals
  | 'g' => d.doubleText Fixed.general value
  | 'G' => (d.doubleText Fixed.general value).map capitals
  | 'c' => d.characterText value
  | _ => none

end Directive

/-! ### Filling -/

/-- A template filled with arguments, and the arguments left. What follows a directive is taken
as the end of the same text, so that the text gets shorter. -/
def fillFrom : List Char → Arguments → Option (List Char × Arguments)
  | [], a => some ([], a)
  | '%' :: '%' :: cs, a => do
      let (tail, a) ← fillFrom cs a
      return ('%' :: tail, a)
  | '%' :: cs, a => do
      let (directive, after, a) ← readDirective cs a
      let (value, a) ← a.next
      let written ← directive.write value
      let (tail, a) ← fillFrom (cs.drop (cs.length - after.length)) a
      return (written ++ tail, a)
  | c :: cs, a => do
      let (tail, a) ← fillFrom cs a
      return (c :: tail, a)
  termination_by cs => cs.length
  decreasing_by all_goals simp only [List.length_drop, List.length_cons]; omega

/-- A template filled with arguments, all of them used. -/
def fill (template : String) (arguments : List Value) : Option String := do
  let (cs, a) ← fillFrom template.toList (Arguments.ofList arguments)
  if a.settled then some (String.ofList cs) else none

end Cartography.Template
