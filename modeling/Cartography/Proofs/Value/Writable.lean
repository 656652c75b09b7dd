import Cartography.Value.Display
import Mathlib.Algebra.Group.Int.Defs
import Mathlib.Algebra.Group.Nat.Defs

/-!
# Values that have a text

A value has a text exactly when no integer in it, at any depth, has more digits than are written.
-/

namespace Cartography.Value

/-- Somewhere in a value is an integer of more digits than are written. -/
inductive HoldsOversized : Value → Prop
  | integer {i : Int} (large : digitLimit < Double.digitCount i.natAbs) :
      HoldsOversized (.integer i)
  | item {items : List Value} {item : Value} (member : item ∈ items)
      (inner : HoldsOversized item) : HoldsOversized (.list items)
  | entry {entries : List (String × Value)} {entry : String × Value} (member : entry ∈ entries)
      (inner : HoldsOversized entry.2) : HoldsOversized (.mapping entries)

/-- A text can always be shown. -/
theorem shown_text (s : String) : ¬ HoldsOversized (.text s) := by
  intro holds
  cases holds

theorem holdsOversized_integer {i : Int} :
    HoldsOversized (.integer i) ↔ digitLimit < Double.digitCount i.natAbs :=
  ⟨fun | .integer large => large, .integer⟩

theorem holdsOversized_list {items : List Value} :
    HoldsOversized (.list items) ↔ ∃ item ∈ items, HoldsOversized item :=
  ⟨fun | .item member inner => ⟨_, member, inner⟩, fun ⟨_, member, inner⟩ => .item member inner⟩

theorem holdsOversized_mapping {entries : List (String × Value)} :
    HoldsOversized (.mapping entries) ↔ ∃ entry ∈ entries, HoldsOversized entry.2 :=
  ⟨fun | .entry member inner => ⟨_, member, inner⟩, fun ⟨_, member, inner⟩ => .entry member inner⟩

mutual

/-- Only an integer of too many digits keeps a value from having a literal form. -/
theorem literal?_eq_none_iff (value : Value) : value.literal? = none ↔ value.HoldsOversized := by
  match value with
  | .null | .bool _ | .double _ | .text _ =>
      refine ⟨fun missing => ?_, fun holds => ?_⟩
      · simp [literal?] at missing
      · cases holds
  | .integer i => simp [literal?, integerText?, holdsOversized_integer]
  | .list items =>
      rw [literal?, Option.map_eq_none_iff, literals?_eq_none_iff items, holdsOversized_list]
  | .mapping entries =>
      rw [literal?, Option.map_eq_none_iff, entryLiterals?_eq_none_iff entries,
        holdsOversized_mapping]

theorem literals?_eq_none_iff (items : List Value) :
    literals? items = none ↔ ∃ item ∈ items, item.HoldsOversized := by
  match items with
  | [] => simp [literals?]
  | item :: rest =>
      have first := literal?_eq_none_iff item
      have others := literals?_eq_none_iff rest
      simp only [literals?, List.mem_cons, exists_eq_or_imp, ← first, ← others]
      cases item.literal? <;> cases literals? rest <;> simp

theorem entryLiterals?_eq_none_iff (entries : List (String × Value)) :
    entryLiterals? entries = none ↔ ∃ entry ∈ entries, entry.2.HoldsOversized := by
  match entries with
  | [] => simp [entryLiterals?]
  | (key, value) :: rest =>
      have first := literal?_eq_none_iff value
      have others := entryLiterals?_eq_none_iff rest
      simp only [entryLiterals?, List.mem_cons, exists_eq_or_imp, ← first, ← others]
      cases value.literal? <;> cases entryLiterals? rest <;> simp

end

theorem isWritable_iff (value : Value) : value.isWritable = true ↔ ¬ value.HoldsOversized := by
  rw [← literal?_eq_none_iff, isWritable, Option.isSome_iff_ne_none]

/-- Arguments have a text exactly when each of them has one. -/
theorem argumentsLiteral?_eq_none_iff (arguments : List Value) :
    argumentsLiteral? arguments = none ↔ ∃ a ∈ arguments, a.HoldsOversized := by
  rw [argumentsLiteral?, Option.map_eq_none_iff, literals?_eq_none_iff]

/-- The plain form of a value is missing where its literal form is. -/
theorem plain?_eq_none_iff (value : Value) : value.plain? = none ↔ value.HoldsOversized := by
  rw [← literal?_eq_none_iff]
  cases value <;> simp [plain?, literal?]

/-! ### Powers of ten -/

theorem digitCount_pow (n : Nat) : Double.digitCount (10 ^ n) = n + 1 := by
  induction n with
  | zero => rfl
  | succ n ih =>
      have large : 10 ≤ 10 ^ (n + 1) := Nat.le_self_pow (Nat.succ_ne_zero n) 10
      have shorter : 10 ^ (n + 1) / 10 = 10 ^ n := by
        rw [Nat.pow_succ, Nat.mul_div_cancel _ (by decide)]
      rw [Double.digitCount, Nat.toDigits_of_base_le (by decide) large, shorter,
        List.length_append, ← Double.digitCount, ih]
      rfl

theorem holdsOversized_pow {n : Nat} (large : digitLimit ≤ n) :
    HoldsOversized (.integer (10 ^ n)) := by
  rw [holdsOversized_integer, Int.natAbs_pow, show (10 : Int).natAbs = 10 from rfl,
    digitCount_pow]
  exact Nat.lt_succ_of_le large

end Cartography.Value
