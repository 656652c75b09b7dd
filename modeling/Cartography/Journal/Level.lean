import Cartography.Text.Case

/-!
# Levels

The five levels of importance of a record.
-/

namespace Cartography

/-- How important a record is. -/
inductive Level
  | debug
  | info
  | warning
  | error
  | critical
  deriving DecidableEq, Inhabited

namespace Level

/-- Every level, the least first. -/
def all : List Level := [debug, info, warning, error, critical]

/-- The name of a level. -/
def name : Level → String
  | debug => "DEBUG"
  | info => "INFO"
  | warning => "WARNING"
  | error => "ERROR"
  | critical => "CRITICAL"

/-- The number of a level. -/
def number : Level → Nat
  | debug => 10
  | info => 20
  | warning => 30
  | error => 40
  | critical => 50

/-- The level of a name, in whatever case it is written. -/
def ofName? (s : String) : Option Level :=
  all.find? fun level => level.name == Text.upper s

/-- The name of a number: that of a level, or one made of the number. -/
def nameOfNumber (n : Int) : String :=
  match all.find? fun level => (level.number : Int) == n with
  | some level => level.name
  | none => if n = 0 then "NOTSET" else "Level " ++ toString n

theorem mem_all (level : Level) : level ∈ all := by
  cases level <;> decide

/-- The name of a level is read as that level. -/
theorem ofName?_name (level : Level) : ofName? level.name = some level := by
  cases level <;> decide +kernel

end Level

end Cartography
