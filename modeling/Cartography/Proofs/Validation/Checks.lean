import Cartography.Validation.Check

/-!
# What checks take

The check of a field takes the values of one form, and gives what stands in them. A field that may be
missing is also taken where it is null.
-/

namespace Cartography.Checked

theorem text_eq_ok {key : String} {value : Value} {s : String} :
    text key value = .ok s ↔ value = .text s := by
  cases value <;> simp [text, fault]

/-- A list of texts passes the check for one. -/
theorem textsFrom_map_text (key : String) (start : Nat) (items : List String) :
    textsFrom key start (items.map .text) = .ok items := by
  induction items generalizing start with
  | nil => rfl
  | cons item rest ih =>
      rw [List.map_cons, textsFrom, ih]
      rfl

theorem textsFrom_eq_ok {key : String} {start : Nat} {items : List Value} {found : List String} :
    textsFrom key start items = .ok found ↔ items = found.map .text := by
  constructor
  · intro passed
    induction items generalizing start found with
    | nil =>
        obtain rfl := Except.ok.inj passed
        rfl
    | cons item rest ih =>
        cases item with
        | text s =>
            rw [textsFrom] at passed
            cases checked : textsFrom key (start + 1) rest with
            | error issues =>
                rw [checked] at passed
                cases passed
            | ok others =>
                rw [checked] at passed
                obtain rfl := Except.ok.inj passed
                rw [ih checked, List.map_cons]
        | _ => cases passed
  · rintro rfl
    exact textsFrom_map_text key start found

theorem texts_eq_ok {key : String} {defect : Defect} {value : Value} {found : List String} :
    texts key defect value = .ok found ↔ value = .texts found := by
  cases value with
  | list items => simp [texts, Value.texts, textsFrom_eq_ok]
  | _ => simp [texts, fault, Value.texts]

theorem positive_eq_ok {key : String} {value : Value} {size : Int} :
    positive key value = .ok size ↔ integerOf value = .ok size ∧ 0 < size := by
  rw [positive]
  cases integerOf value with
  | error defect => simp [fault]
  | ok i =>
      by_cases large : 0 < i
      · simp only [large, if_true, Except.ok.injEq]
        constructor
        · rintro rfl
          exact ⟨rfl, large⟩
        · exact fun given => given.1
      · simp only [large, if_false, fault, reduceCtorEq, Except.ok.injEq, false_iff, not_and]
        rintro rfl
        exact large

/-- A field that may be missing is null or absent, or it is there and passes its check. -/
theorem optional_eq_ok {α : Type} {check : Value → Checked α} {found : Option Value}
    {result : Option α} : optional check found = .ok result ↔
      (found.getD .null = .null ∧ result = none) ∨
        ∃ value a, found = some value ∧ value ≠ .null ∧ check value = .ok a ∧ result = some a := by
  have present (value : Value) (filled : value ≠ .null) :
      optional check (some value) = (check value).map some := by
    cases value <;> first | rfl | exact absurd rfl filled
  cases found with
  | none => simp [optional, eq_comm]
  | some value =>
      by_cases filled : value = .null
      · subst filled
        simp [optional, eq_comm]
      · rw [present value filled]
        cases checked : check value <;> simp [filled, checked, Except.map, eq_comm]

end Cartography.Checked
