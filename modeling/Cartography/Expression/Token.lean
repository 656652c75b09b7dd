import Cartography.Expression.Operator
import Cartography.Text.Quoted

/-!
# Tokens

The words of the expression language, each with the place where it starts.
-/

namespace Cartography

/-- A word of the expression language. -/
inductive Token
  | number (n : Number)
  | text (s : String)
  | name (s : String)
  | operator (o : Operator)
  | opening
  | closing
  | comma
  deriving DecidableEq, Inhabited

/-- A token and the index of its first character. -/
structure Located where
  token : Token
  position : Nat
  deriving DecidableEq, Inhabited

/-- The tokens of a text and the index of its end. -/
structure Tokens where
  items : List Located
  stop : Nat
  deriving DecidableEq, Inhabited

namespace Token

/-- The kinds of token, with the names they are listed under. -/
def kinds : List (String × String) :=
  [("NUMBER", "number"), ("STRING", "string"), ("IDENT", "identifier"), ("OPERATOR", "operator"),
    ("LPAREN", "("), ("RPAREN", ")"), ("COMMA", ","), ("EOF", "end of expression")]

/-- The name of a token's kind. -/
def kind : Token → String
  | number _ => "NUMBER"
  | text _ => "STRING"
  | name _ => "IDENT"
  | operator _ => "OPERATOR"
  | opening => "LPAREN"
  | closing => "RPAREN"
  | comma => "COMMA"

/-- What a token stands for, as a value. -/
def value : Token → Value
  | number n => .ofNumber n
  | text s => .text s
  | name s => .text s
  | operator o => .text o.symbol
  | opening => .text "("
  | closing => .text ")"
  | comma => .text ","

/-- A token between single quotes, a text marked as one. -/
def describe : Token → String
  | number n => "'" ++ n.text ++ "'"
  | text s => "string " ++ Text.quoted s
  | name s => "'" ++ s ++ "'"
  | operator o => "'" ++ o.symbol ++ "'"
  | opening => "'('"
  | closing => "')'"
  | comma => "','"

/-- What stands at a place: a token or the end. -/
def describeFound : Option Token → String
  | some token => token.describe
  | none => "end of expression"

end Token

end Cartography
