import Cartography.Proofs.Style.Assembled

/-!
# Spellings of a name

A name in kebab case has other spellings: of its hyphens with a small letter behind, any may be
written, letter and all, as the capital letter. To bring a name to kebab case undoes just this. The
names that come to one canonical name are its spellings and no others, and which properties they are
of is told by the tables.

## Implementation notes

Letters are those of ASCII throughout. A hyphen with no small letter behind it stands for itself, and
so do letters of other alphabets. A name that holds a capital letter is canonical for none.
-/

namespace Cartography

namespace PropertyName

/-- A name is written in some spelling: some of its hyphens with a small letter behind them are
replaced, with the letter, by the capital letter. -/
inductive Respells : List Char → List Char → Prop
  | done : Respells [] []
  | kept (c : Char) {canonical name : List Char} (rest : Respells canonical name) :
      Respells (c :: canonical) (c :: name)
  | capital {x : Char} (small : x.isLower = true) {canonical name : List Char}
      (rest : Respells canonical name) : Respells ('-' :: x :: canonical) (x.toUpper :: name)

/-- A name is a spelling of a canonical name. -/
def IsSpelling (canonical name : String) : Prop := Respells canonical.toList name.toList

/-- No letter of a name is a capital one. -/
def HasNoCapital (name : String) : Prop := ∀ c ∈ name.toList, c.isUpper = false

/-! ### Single characters -/

theorem isLower_iff (c : Char) : c.isLower = true ↔ 'a' ≤ c ∧ c ≤ 'z' :=
  (Bool.and_eq_true _ _).to_iff.trans (and_congr decide_eq_true_iff decide_eq_true_iff)

theorem isUpper_iff (c : Char) : c.isUpper = true ↔ 'A' ≤ c ∧ c ≤ 'Z' :=
  decide_eq_true_iff

theorem isCapital_eq (c : Char) : isCapital c = c.isUpper := by
  rw [Bool.eq_iff_iff, isUpper_iff]
  simp [isCapital]

theorem kebabChar_of_small {c : Char} (small : c.isUpper = false) : kebabChar c = [c] := by
  rw [kebabChar, isCapital_eq, if_neg (Bool.eq_false_iff.mp small)]

theorem kebabChar_of_capital {c : Char} (capital : c.isUpper = true) :
    kebabChar c = ['-', c.toLower] := by
  rw [kebabChar, isCapital_eq, if_pos capital]

/-- What holds of all characters of ASCII, one by one, holds of a letter. -/
theorem of_ascii {P : Char → Prop} (all : ∀ n : Fin 128, P (Char.ofNat n)) {c : Char}
    (low : c.toNat < 128) : P c := by
  have found := all ⟨c.toNat, low⟩
  rwa [Char.ofNat_toNat] at found

theorem lt_of_isLower {c : Char} (small : c.isLower = true) : c.toNat < 128 :=
  Nat.lt_of_le_of_lt (UInt32.le_iff_toNat_le.mp ((isLower_iff c).mp small).2) (by decide)

theorem lt_of_isUpper {c : Char} (capital : c.isUpper = true) : c.toNat < 128 :=
  Nat.lt_of_le_of_lt (UInt32.le_iff_toNat_le.mp ((isUpper_iff c).mp capital).2) (by decide)

/-- A small letter and its capital one go to each other. -/
theorem kebabChar_toUpper {x : Char} (small : x.isLower = true) :
    kebabChar x.toUpper = ['-', x] :=
  of_ascii (P := fun x => x.isLower = true → kebabChar x.toUpper = ['-', x]) (by decide +kernel)
    (lt_of_isLower small) small

theorem toUpper_toLower_of_capital {c : Char} (capital : c.isUpper = true) :
    c.toLower.isLower = true ∧ c.toLower.isUpper = false ∧ c.toLower.toUpper = c :=
  of_ascii (P := fun c => c.isUpper = true →
    c.toLower.isLower = true ∧ c.toLower.isUpper = false ∧ c.toLower.toUpper = c) (by decide +kernel)
    (lt_of_isUpper capital) capital

theorem isUpper_of_mem_kebabChar {c d : Char} (member : d ∈ kebabChar c) : d.isUpper = false := by
  cases capital : c.isUpper with
  | true =>
      rw [kebabChar_of_capital capital] at member
      rcases List.mem_cons.mp member with rfl | last
      · rfl
      · rw [List.mem_singleton.mp last, (toUpper_toLower_of_capital capital).2.1]
  | false =>
      rw [kebabChar_of_small capital] at member
      rwa [List.mem_singleton.mp member]

/-! ### Whole names -/

/-- Every name is a spelling of its own kebab case. -/
theorem respells_flatMap (name : List Char) : Respells (name.flatMap kebabChar) name := by
  induction name with
  | nil => exact .done
  | cons c rest ih =>
      rw [List.flatMap_cons]
      cases capital : c.isUpper with
      | true =>
          obtain ⟨small, -, back⟩ := toUpper_toLower_of_capital capital
          rw [kebabChar_of_capital capital]
          have written := Respells.capital small ih
          rwa [back] at written
      | false =>
          rw [kebabChar_of_small capital]
          exact .kept c ih

/-- A spelling of a name without capital letters comes back to the name. -/
theorem flatMap_of_respells {canonical name : List Char} (spelled : Respells canonical name)
    (small : ∀ c ∈ canonical, c.isUpper = false) : name.flatMap kebabChar = canonical := by
  induction spelled with
  | done => rfl
  | kept c rest ih =>
      obtain ⟨first, others⟩ := List.forall_mem_cons.mp small
      rw [List.flatMap_cons, kebabChar_of_small first, ih others]
      rfl
  | capital lower rest ih =>
      obtain ⟨-, others⟩ := List.forall_mem_cons.mp (List.forall_mem_cons.mp small).2
      rw [List.flatMap_cons, kebabChar_toUpper lower, ih others]
      rfl

theorem hasNoCapital_kebab (name : String) : HasNoCapital (kebab name) := by
  intro c member
  rw [kebab, String.toList_ofList] at member
  obtain ⟨d, -, written⟩ := List.mem_flatMap.mp member
  exact isUpper_of_mem_kebabChar written

theorem isSpelling_kebab (name : String) : IsSpelling (kebab name) name := by
  rw [IsSpelling, kebab, String.toList_ofList]
  exact respells_flatMap name.toList

/-- The names that come to a canonical name are its spellings, if it has no capital letter. -/
theorem kebab_eq_iff {name canonical : String} :
    kebab name = canonical ↔ HasNoCapital canonical ∧ IsSpelling canonical name := by
  constructor
  · rintro rfl
    exact ⟨hasNoCapital_kebab name, isSpelling_kebab name⟩
  · rintro ⟨small, spelled⟩
    rw [kebab, flatMap_of_respells spelled small, String.ofList_toList]

theorem isSpelling_self (name : String) : IsSpelling name name := by
  rw [IsSpelling]
  induction name.toList with
  | nil => exact .done
  | cons c rest ih => exact .kept c ih

theorem kebab_of_hasNoCapital {name : String} (small : HasNoCapital name) : kebab name = name :=
  kebab_eq_iff.mpr ⟨small, isSpelling_self name⟩

end PropertyName

open PropertyName

/-! ### Properties -/

namespace Category

theorem all_small (category : Category) :
    (category.table.all fun name => name.toList.all fun c => !c.isUpper) = true := by
  cases category <;> decide +kernel

/-- The tables hold canonical names. -/
theorem hasNoCapital_of_mem {category : Category} {canonical : String}
    (listed : canonical ∈ category.table) : HasNoCapital canonical := by
  have small := List.all_eq_true.mp category.all_small canonical listed
  simpa [HasNoCapital] using small

/-- A name is classified under a canonical name of a table exactly if it is a spelling of it. -/
theorem classify_eq_iff {category : Category} (half : category ≠ none) {name canonical : String} :
    classify name = ⟨category, canonical⟩ ↔
      canonical ∈ category.table ∧ IsSpelling canonical name := by
  have parts : classify name = ⟨category, canonical⟩ ↔
      Category.of (kebab name) = category ∧ kebab name = canonical := by
    rw [classify, Classification.mk.injEq]
  rw [parts, of_eq_iff half, kebab_eq_iff]
  constructor
  · rintro ⟨listed, small, spelled⟩
    rw [kebab_eq_iff.mpr ⟨small, spelled⟩] at listed
    exact ⟨listed, spelled⟩
  · rintro ⟨listed, spelled⟩
    have small := hasNoCapital_of_mem listed
    rw [kebab_eq_iff.mpr ⟨small, spelled⟩]
    exact ⟨listed, small, spelled⟩

end Category

/-- The canonical names of all properties of a half. -/
def styleNames : List String := paintNames ++ layoutNames

theorem mem_styleNames {canonical : String} :
    canonical ∈ styleNames ↔ ∃ category : Category, category ≠ .none ∧ canonical ∈ category.table := by
  rw [styleNames, List.mem_append]
  constructor
  · rintro (paint | layout)
    · exact ⟨.paint, by decide, paint⟩
    · exact ⟨.layout, by decide, layout⟩
  · rintro ⟨category, half, listed⟩
    cases category with
    | paint => exact Or.inl listed
    | layout => exact Or.inr listed
    | none => exact absurd rfl half

/-- A name is one of a property of a half just when it is a spelling of a name of the tables. -/
theorem isStyle_iff {name canonical : String} :
    (classify name).isStyle = true ∧ (classify name).canonical = canonical ↔
      canonical ∈ styleNames ∧ IsSpelling canonical name := by
  constructor
  · rintro ⟨style, rfl⟩
    have half : (classify name).category ≠ .none := by simpa [Classification.isStyle] using style
    obtain ⟨listed, spelled⟩ := (Category.classify_eq_iff half).mp (Eq.refl (classify name))
    exact ⟨mem_styleNames.mpr ⟨_, half, listed⟩, spelled⟩
  · rintro ⟨listed, spelled⟩
    obtain ⟨category, half, listed⟩ := mem_styleNames.mp listed
    rw [(Category.classify_eq_iff half).mpr ⟨listed, spelled⟩]
    exact ⟨by simpa [Classification.isStyle] using half, rfl⟩

/-- Two names are spellings of one property of a half. -/
def SameProperty (name other : String) : Prop :=
  ∃ canonical ∈ styleNames, IsSpelling canonical name ∧ IsSpelling canonical other

theorem SameProperty.classify_eq {name other : String} (same : SameProperty name other) :
    classify other = classify name ∧ (classify name).category ≠ .none := by
  obtain ⟨canonical, listed, spelled, respelled⟩ := same
  obtain ⟨category, half, listed⟩ := mem_styleNames.mp listed
  rw [(Category.classify_eq_iff half).mpr ⟨listed, spelled⟩,
    (Category.classify_eq_iff half).mpr ⟨listed, respelled⟩]
  exact ⟨rfl, half⟩

/-- Properties are given once more in their order, with the same values, some of those of a half in
other spellings. -/
def Respelled : Fields → Fields → Prop :=
  List.Forall₂ fun entry other =>
    (other.1 = entry.1 ∨ SameProperty entry.1 other.1) ∧ other.2 = entry.2

namespace Style

/-- A property of a half is put in its place in whatever spelling. -/
theorem add_of_sameProperty {name other : String} (same : SameProperty name other) (style : Style)
    (value : Value) : style.add other value = style.add name value := by
  obtain ⟨alike, half⟩ := same.classify_eq
  rw [add, add, alike]
  cases category : (classify name).category with
  | none => exact absurd category half
  | _ => rfl

theorem foldl_of_respelled {properties others : Fields} (respelled : Respelled properties others)
    (style : Style) :
    others.foldl (fun style entry => style.add entry.1 entry.2) style =
      properties.foldl (fun style entry => style.add entry.1 entry.2) style := by
  induction respelled generalizing style with
  | nil => rfl
  | cons first _ ih =>
      obtain ⟨named, valued⟩ := first
      rw [List.foldl_cons, List.foldl_cons, valued, ih]
      rcases named with same | other
      · rw [same]
      · rw [add_of_sameProperty other]

/-- Properties in other spellings make the same style. -/
theorem build_of_respelled {properties others : Fields} (respelled : Respelled properties others) :
    build (.mapping others) = build (.mapping properties) := by
  have same := foldl_of_respelled respelled ⟨[], [], []⟩
  rw [build, build, ofProperties, ofProperties, same]

end Style

end Cartography
