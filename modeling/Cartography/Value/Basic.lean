import Cartography.Number.Basic

/-!
# Values

The dynamic values that styles, sources and events are made of, and the operations on the
entries of a mapping.

## Implementation notes

A mapping is the list of its entries in insertion order. Every operation here keeps the keys of
its argument distinct: writing to a key that is present changes the value where it stands.
-/

namespace Cartography

/-- A value: a scalar, a list or a mapping from names to values. -/
inductive Value
  | null
  | bool (b : Bool)
  | integer (i : Int)
  | double (x : Double)
  | text (s : String)
  | list (items : List Value)
  | mapping (entries : List (String × Value))
  deriving Inhabited

/-- The entries of a mapping, in insertion order. -/
abbrev Fields := List (String × Value)

namespace Fields

/-- The value at a key. -/
def get? (fields : Fields) (key : String) : Option Value := fields.lookup key

/-- Whether a key is present. -/
def has (fields : Fields) (key : String) : Bool := (fields.lookup key).isSome

/-- The fields with a value at a key: in place if the key is present, else at the end. -/
def set : Fields → String → Value → Fields
  | [], key, value => [(key, value)]
  | entry :: rest, key, value =>
      if key == entry.1 then (key, value) :: rest else entry :: set rest key value

/-- The fields without a key. -/
def erase (fields : Fields) (key : String) : Fields := fields.filter (·.1 != key)

/-- The fields with each of the later entries set in turn. -/
def merge (fields later : Fields) : Fields :=
  later.foldl (fun merged entry => merged.set entry.1 entry.2) fields

/-- The fields with a value at a key that was absent. -/
def setDefault (fields : Fields) (key : String) (value : Value) : Fields :=
  if fields.has key then fields else fields.set key value

@[simp] theorem get?_nil (key : String) : get? [] key = none := rfl

theorem get?_cons (entry : String × Value) (rest : Fields) (key : String) :
    get? (entry :: rest) key = if key == entry.1 then some entry.2 else get? rest key := by
  obtain ⟨found, value⟩ := entry
  simp only [get?, List.lookup_cons]
  cases key == found <;> rfl

theorem get?_set_self (fields : Fields) (key : String) (value : Value) :
    (fields.set key value).get? key = some value := by
  induction fields with
  | nil => simp [set, get?_cons]
  | cons entry rest ih =>
      cases h : key == entry.1 with
      | true => simp [set, h, get?_cons]
      | false => simp [set, h, get?_cons, ih]

theorem get?_set_of_ne (fields : Fields) {key other : String} (value : Value)
    (ne : other ≠ key) : (fields.set key value).get? other = fields.get? other := by
  induction fields with
  | nil => simp [set, get?_cons, ne]
  | cons entry rest ih =>
      cases h : key == entry.1 with
      | true =>
          have same : key = entry.1 := by simpa using h
          subst same
          simp [set, get?_cons, ne]
      | false => simp [set, h, get?_cons, ih]

end Fields

namespace Value

/-- The name of a value's kind, as messages give it. -/
def kind : Value → String
  | .null => "NoneType"
  | .bool _ => "bool"
  | .integer _ => "int"
  | .double _ => "float"
  | .text _ => "str"
  | .list _ => "list"
  | .mapping _ => "dict"

/-- Whether a value counts as true: all do but null, false, zeros and what is empty. -/
def truthy : Value → Bool
  | .null => false
  | .bool b => b
  | .integer i => i != 0
  | .double x => !x.isZero
  | .text s => s != ""
  | .list items => !items.isEmpty
  | .mapping entries => !entries.isEmpty

/-- A number as a value. -/
def ofNumber : Number → Value
  | .integer i => .integer i
  | .double x => .double x

/-- A list of texts as a value. -/
def texts (items : List String) : Value := .list (items.map .text)

/-- Whether a value may stand where a key is looked up: lists and mappings may not. -/
def isKey : Value → Bool
  | .list _ | .mapping _ => false
  | _ => true

end Value

end Cartography
