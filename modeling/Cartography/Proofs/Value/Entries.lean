import Cartography.Value.Basic
import Mathlib.Data.List.Nodup

/-!
# Entries that are set in turn

Where entries are set one after another, the last one with a key is the one that is found there.
Setting entries keeps the keys of a mapping distinct, and brings in nothing but those entries.
-/

namespace Cartography.Fields

/-- No key is there twice. -/
def Distinct (fields : Fields) : Prop := (fields.map (·.1)).Nodup

/-- The value at a key, unless it is null. -/
def filled? (fields : Fields) (key : String) : Option Value :=
  match fields.get? key with
  | some .null => none
  | found => found

/-- The value of the last entry with a key. -/
def last? (fields : Fields) (key : String) : Option Value := get? fields.reverse key

@[simp] theorem last?_nil (key : String) : last? [] key = none := rfl

/-! ### Looking up -/

theorem get?_append (fields others : Fields) (key : String) :
    get? (fields ++ others) key = (get? fields key).or (get? others key) := by
  induction fields with
  | nil => simp
  | cons entry rest ih =>
      rw [List.cons_append, get?_cons, get?_cons, ih]
      cases key == entry.1 <;> rfl

theorem get?_eq_none_iff {fields : Fields} {key : String} :
    fields.get? key = none ↔ ∀ entry ∈ fields, entry.1 ≠ key := by
  induction fields with
  | nil => simp
  | cons entry rest ih =>
      rw [get?_cons, List.forall_mem_cons, ← ih]
      by_cases same : key = entry.1
      · simp [same]
      · simp [same, Ne.symm same]

theorem has_eq_false_iff {fields : Fields} {key : String} :
    fields.has key = false ↔ ∀ entry ∈ fields, entry.1 ≠ key := by
  rw [← get?_eq_none_iff, has, ← get?]
  cases fields.get? key <;> simp

/-- The last entry with a key stands in front of others with other keys. -/
theorem last?_append_cons (before : Fields) {key : String} (value : Value) {after : Fields}
    (absent : ∀ entry ∈ after, entry.1 ≠ key) :
    last? (before ++ (key, value) :: after) key = some value := by
  have unfound : get? after.reverse key = none :=
    get?_eq_none_iff.mpr fun entry he => absent entry (List.mem_reverse.mp he)
  rw [last?, List.reverse_append, List.reverse_cons, get?_append, get?_append, unfound, get?_cons]
  simp

/-- The last entry with a key is one that no other entry with the key comes after. -/
theorem last?_eq_some_iff {fields : Fields} {key : String} {value : Value} :
    fields.last? key = some value ↔
      ∃ before after, fields = before ++ (key, value) :: after ∧
        ∀ entry ∈ after, entry.1 ≠ key := by
  constructor
  · intro found
    rw [last?, get?, List.lookup_eq_some_iff] at found
    obtain ⟨later, earlier, split, others⟩ := found
    refine ⟨earlier.reverse, later.reverse, ?_, ?_⟩
    · rw [← List.reverse_reverse fields, split]
      simp
    · intro entry member same
      have other := others entry (List.mem_reverse.mp member)
      simp [same] at other
  · rintro ⟨before, after, rfl, others⟩
    exact last?_append_cons before value others

/-- An entry that is found is one of the entries. -/
theorem mem_of_get? {fields : Fields} {key : String} {value : Value}
    (found : fields.get? key = some value) : (key, value) ∈ fields := by
  induction fields with
  | nil => cases found
  | cons entry rest ih =>
      obtain ⟨name, held⟩ := entry
      rw [get?_cons] at found
      by_cases same : key = name
      · simp_all
      · exact List.mem_cons_of_mem _ (ih (by simpa [same] using found))

/-- Where no key is there twice, what is found at a key is the only entry with it. -/
theorem get?_eq_some_iff {fields : Fields} (distinct : fields.Distinct) {key : String}
    {value : Value} : fields.get? key = some value ↔ (key, value) ∈ fields := by
  refine ⟨mem_of_get?, ?_⟩
  intro member
  obtain ⟨before, after, rfl⟩ := List.append_of_mem member
  rw [Distinct, List.map_append, List.nodup_append] at distinct
  have absent : get? before key = none :=
    get?_eq_none_iff.mpr fun entry he same =>
      distinct.2.2 entry.1 (List.mem_map_of_mem he) key (by simp) same
  rw [get?_append, absent, get?_cons]
  simp

/-- Where no key is there twice, the last entry with a key is the first one. -/
theorem last?_of_distinct {fields : Fields} (distinct : fields.Distinct) (key : String) :
    fields.last? key = fields.get? key := by
  have reversed : Distinct fields.reverse := by
    rw [Distinct, List.map_reverse]
    exact List.nodup_reverse.mpr distinct
  apply Option.ext
  intro value
  show get? fields.reverse key = some value ↔ _
  rw [get?_eq_some_iff reversed, get?_eq_some_iff distinct, List.mem_reverse]

/-! ### Values that are not null -/

theorem filled?_eq_some_iff {fields : Fields} {key : String} {value : Value} :
    fields.filled? key = some value ↔ fields.get? key = some value ∧ value ≠ .null := by
  rw [filled?]
  split
  · rename_i null
    rw [null]
    constructor
    · exact nofun
    · rintro ⟨same, filled⟩
      exact absurd (Option.some.inj same).symm filled
  · rename_i notNull
    constructor
    · intro found
      refine ⟨found, ?_⟩
      rintro rfl
      exact notNull found
    · exact fun given => given.1

theorem filled?_eq_none_iff {fields : Fields} {key : String} :
    fields.filled? key = none ↔ (fields.get? key).getD .null = .null := by
  rw [filled?]
  split
  · rename_i null
    simp [null]
  · rename_i notNull
    cases found : fields.get? key with
    | none => simp
    | some value =>
        rw [found] at notNull
        simpa using notNull

theorem filled?_eq_none {fields : Fields} {key : String}
    (empty : ∀ value, (key, value) ∈ fields → value = .null) : fields.filled? key = none := by
  rw [filled?_eq_none_iff]
  cases found : fields.get? key with
  | none => rfl
  | some value => exact empty value (mem_of_get? found)

/-- What is null where nothing is found is some other value only where this is found. -/
theorem getD_eq_iff {found : Option Value} {value : Value} (filled : value ≠ .null) :
    found.getD .null = value ↔ found = some value := by
  cases found with
  | none => simpa using filled.symm
  | some other => simp

/-- Fields with the same value at a key, or null where there is none, have the same value there
unless it is null. -/
theorem filled?_congr {fields others : Fields} {key : String}
    (same : (fields.get? key).getD .null = (others.get? key).getD .null) :
    fields.filled? key = others.filled? key := by
  ext value
  rw [filled?_eq_some_iff, filled?_eq_some_iff]
  refine and_congr_left fun filled => ?_
  rw [← getD_eq_iff filled, same, getD_eq_iff filled]

/-- Some of the entries have distinct keys if all have. -/
theorem Distinct.filter {fields : Fields} (distinct : fields.Distinct)
    (p : String × Value → Bool) : Distinct (fields.filter p) :=
  distinct.sublist (List.filter_sublist.map _)

/-! ### Setting -/

theorem get?_set (fields : Fields) (key other : String) (value : Value) :
    (fields.set key value).get? other = if other = key then some value else fields.get? other := by
  by_cases same : other = key
  · subst same
    rw [get?_set_self, if_pos rfl]
  · rw [get?_set_of_ne fields value same, if_neg same]

theorem mem_of_mem_set {fields : Fields} {key : String} {value : Value} {entry : String × Value}
    (member : entry ∈ fields.set key value) : entry ∈ fields ∨ entry = (key, value) := by
  induction fields with
  | nil => exact Or.inr (List.mem_singleton.mp member)
  | cons first rest ih =>
      rw [set] at member
      split at member
      · rcases List.mem_cons.mp member with rfl | later
        · exact Or.inr rfl
        · exact Or.inl (List.mem_cons_of_mem _ later)
      · rcases List.mem_cons.mp member with rfl | later
        · exact Or.inl (List.mem_cons_self ..)
        · exact (ih later).imp_left (List.mem_cons_of_mem _)

/-- Setting an entry keeps the keys, and adds its own if it is not among them. -/
theorem keys_set (fields : Fields) (key : String) (value : Value) :
    (fields.set key value).map (·.1) =
      if key ∈ fields.map (·.1) then fields.map (·.1) else fields.map (·.1) ++ [key] := by
  induction fields with
  | nil => rfl
  | cons entry rest ih =>
      rw [set]
      by_cases same : key = entry.1
      · simp [same]
      · have other : (key == entry.1) = false := by simpa using same
        rw [if_neg (by simp [other]), List.map_cons, ih]
        by_cases listed : key ∈ rest.map (·.1)
        · have listed' : key ∈ (entry :: rest).map (·.1) := List.mem_cons_of_mem _ listed
          rw [if_pos listed, if_pos listed', List.map_cons]
        · have unlisted : key ∉ (entry :: rest).map (·.1) := by
            rw [List.map_cons, List.mem_cons]
            exact not_or.mpr ⟨same, listed⟩
          rw [if_neg listed, if_neg unlisted, List.map_cons, List.cons_append]

theorem Distinct.set {fields : Fields} (distinct : fields.Distinct) (key : String)
    (value : Value) : (fields.set key value).Distinct := by
  rw [Distinct, keys_set]
  split
  · exact distinct
  · rename_i unlisted
    exact List.nodup_append.mpr ⟨distinct, List.nodup_singleton key, by
      intro a ha b hb same
      rw [List.mem_singleton.mp hb] at same
      exact unlisted (same ▸ ha)⟩

/-- An entry that is there can be set before or after another one. -/
theorem set_set_comm (fields : Fields) {key other : String} (value found : Value)
    (there : fields.has key = true) (ne : other ≠ key) :
    (fields.set other found).set key value = (fields.set key value).set other found := by
  induction fields with
  | nil => cases there
  | cons entry rest ih =>
      by_cases same : key = entry.1
      · subst same
        simp [set, ne]
      · have later : has rest key = true := by
          rw [has, ← get?] at there ⊢
          rwa [get?_cons, if_neg (by simpa using same)] at there
        by_cases here : other = entry.1
        · subst here
          simp [set, same]
        · simp [set, same, here, ih later]

/-! ### Merging -/

@[simp] theorem merge_nil (fields : Fields) : fields.merge [] = fields := rfl

@[simp] theorem merge_cons (fields : Fields) (entry : String × Value) (later : Fields) :
    fields.merge (entry :: later) = (fields.set entry.1 entry.2).merge later := rfl

/-- Of entries that are set in turn, the last one with a key is found. -/
theorem get?_merge (fields later : Fields) (key : String) :
    (fields.merge later).get? key = (later.last? key).or (fields.get? key) := by
  induction later generalizing fields with
  | nil => rfl
  | cons entry rest ih =>
      rw [merge_cons, ih, get?_set, last?, last?, List.reverse_cons, get?_append, get?_cons,
        get?_nil]
      by_cases same : key = entry.1
      · simp [same]
      · simp [same]

theorem set_ne_nil (fields : Fields) (key : String) (value : Value) :
    fields.set key value ≠ [] := by
  cases fields with
  | nil => simp [set]
  | cons entry rest =>
      rw [set]
      split <;> simp

theorem merge_eq_nil {fields later : Fields} :
    fields.merge later = [] ↔ fields = [] ∧ later = [] := by
  induction later generalizing fields with
  | nil => simp
  | cons entry rest ih =>
      rw [merge_cons, ih]
      simp [set_ne_nil]

theorem has_set_of_has {fields : Fields} {key : String} (there : fields.has key = true)
    (other : String) (value : Value) : (fields.set other value).has key = true := by
  rw [has, ← get?] at there ⊢
  rw [get?_set]
  split
  · rfl
  · exact there

/-- An entry that is there can be set before or after those of other keys. -/
theorem set_merge {fields later : Fields} {key : String} (value : Value)
    (there : fields.has key = true) (others : ∀ entry ∈ later, entry.1 ≠ key) :
    (fields.merge later).set key value = (fields.set key value).merge later := by
  induction later generalizing fields with
  | nil => rfl
  | cons entry rest ih =>
      obtain ⟨ne, rest⟩ := List.forall_mem_cons.mp others
      rw [merge_cons, merge_cons, ih (has_set_of_has there _ _) rest,
        set_set_comm fields value entry.2 there ne]

theorem mem_of_mem_merge {fields later : Fields} {entry : String × Value}
    (member : entry ∈ fields.merge later) : entry ∈ fields ∨ entry ∈ later := by
  induction later generalizing fields with
  | nil => exact Or.inl member
  | cons first rest ih =>
      rcases ih member with earlier | later
      · rcases mem_of_mem_set earlier with before | rfl
        · exact Or.inl before
        · exact Or.inr (List.mem_cons_self ..)
      · exact Or.inr (List.mem_cons_of_mem _ later)

theorem Distinct.merge {fields : Fields} (distinct : fields.Distinct) (later : Fields) :
    (fields.merge later).Distinct := by
  induction later generalizing fields with
  | nil => exact distinct
  | cons entry rest ih => exact ih (distinct.set entry.1 entry.2)

theorem set_of_absent {fields : Fields} {key : String} (absent : fields.has key = false)
    (value : Value) : fields.set key value = fields ++ [(key, value)] := by
  rw [has_eq_false_iff] at absent
  induction fields with
  | nil => rfl
  | cons entry rest ih =>
      obtain ⟨other, others⟩ := List.forall_mem_cons.mp absent
      rw [set, if_neg (by simpa using other.symm), ih others, List.cons_append]

/-- Entries with keys of their own are set behind the others. -/
theorem merge_eq_append {fields later : Fields} (distinct : Distinct (fields ++ later)) :
    fields.merge later = fields ++ later := by
  induction later generalizing fields with
  | nil => rw [merge_nil, List.append_nil]
  | cons entry rest ih =>
      have absent : fields.has entry.1 = false := by
        rw [has_eq_false_iff]
        intro other member same
        rw [Distinct, List.map_append, List.nodup_append] at distinct
        exact distinct.2.2 other.1 (List.mem_map_of_mem member) entry.1 (by simp) same
      have later : Distinct ((fields ++ [entry]) ++ rest) := by simpa using distinct
      rw [merge_cons, set_of_absent absent, ih later, List.append_assoc]
      rfl

/-! ### The entries under some keys -/

/-- The entries whose keys are among some. -/
def keeping (p : String → Bool) (fields : Fields) : Fields := fields.filter fun entry => p entry.1

theorem keeping_cons (p : String → Bool) (entry : String × Value) (rest : Fields) :
    keeping p (entry :: rest) = if p entry.1 then entry :: keeping p rest else keeping p rest :=
  List.filter_cons

/-- An entry that is set is set among those that are kept, or else changes nothing of them. -/
theorem keeping_set (p : String → Bool) (fields : Fields) (key : String) (value : Value) :
    (fields.set key value).keeping p =
      if p key then (fields.keeping p).set key value else fields.keeping p := by
  induction fields with
  | nil => simp [set, keeping, List.filter_cons]
  | cons entry rest ih =>
      rw [set, keeping_cons]
      by_cases same : key = entry.1
      · subst same
        cases kept : p entry.1 <;> simp [keeping_cons, kept, set]
      · cases kept : p entry.1 <;> cases keptKey : p key <;>
          simp [keeping_cons, same, kept, keptKey, ih, set]

/-- Of entries that are set in turn, those that are kept are set among those that are kept. -/
theorem keeping_merge (p : String → Bool) (fields later : Fields) :
    (fields.merge later).keeping p = (fields.keeping p).merge (later.keeping p) := by
  induction later generalizing fields with
  | nil => rfl
  | cons entry rest ih =>
      rw [merge_cons, ih, keeping_cons, keeping_set]
      cases p entry.1 <;> rfl

/-- What is found at a key is found among the entries that are kept, if these keep the key. -/
theorem get?_keeping (p : String → Bool) (fields : Fields) (key : String) :
    (fields.keeping p).get? key = if p key then fields.get? key else none := by
  induction fields with
  | nil => simp [keeping]
  | cons entry rest ih =>
      rw [keeping_cons, get?_cons]
      by_cases same : key = entry.1
      · subst same
        cases kept : p entry.1 <;> simp_all [get?_cons]
      · cases kept : p entry.1 <;> simp [get?_cons, same, ih]

theorem last?_keeping (p : String → Bool) (fields : Fields) (key : String) :
    (fields.keeping p).last? key = if p key then fields.last? key else none := by
  rw [last?, keeping, ← List.filter_reverse]
  exact get?_keeping p fields.reverse key

/-- The entries with a key. -/
def under (fields : Fields) (key : String) : Fields := fields.filter (·.1 == key)

theorem mem_under {fields : Fields} {key : String} {entry : String × Value} :
    entry ∈ fields.under key ↔ entry ∈ fields ∧ entry.1 = key := by
  simp [under, List.mem_filter]

theorem under_cons (entry : String × Value) (rest : Fields) (key : String) :
    under (entry :: rest) key =
      if entry.1 = key then entry :: under rest key else under rest key := by
  by_cases same : entry.1 = key <;> simp [under, same]

/-- Nothing but the entries with a key counts for what is found at it. -/
theorem get?_under (fields : Fields) (key : String) :
    (fields.under key).get? key = fields.get? key := by
  induction fields with
  | nil => rfl
  | cons entry rest ih =>
      rw [under_cons, get?_cons]
      by_cases same : entry.1 = key
      · simp [same, get?_cons]
      · simp [same, Ne.symm same, ih]

/-- Where the entries with a key are the same, so are the values that are there with it. -/
theorem mem_iff_of_under {fields others : Fields} {key : String}
    (same : fields.under key = others.under key) (value : Value) :
    (key, value) ∈ fields ↔ (key, value) ∈ others := by
  calc (key, value) ∈ fields
      ↔ (key, value) ∈ fields.under key := by simp [mem_under]
    _ ↔ (key, value) ∈ others.under key := by rw [same]
    _ ↔ (key, value) ∈ others := by simp [mem_under]

/-- Setting an entry leaves those with other keys as they are. -/
theorem under_set_of_ne (fields : Fields) {key other : String} (value : Value)
    (ne : other ≠ key) : (fields.set key value).under other = fields.under other := by
  refine (keeping_set (· == other) fields key value).trans (if_neg ?_)
  simpa using ne.symm

/-- Of entries that are set in turn, those with a key are set among those with this key. -/
theorem under_merge (fields later : Fields) (key : String) :
    (fields.merge later).under key = (fields.under key).merge (later.under key) :=
  keeping_merge (· == key) fields later

theorem under_erase_of_ne (fields : Fields) {key other : String} (ne : other ≠ key) :
    (fields.erase key).under other = fields.under other := by
  rw [under, under, erase, List.filter_filter]
  apply List.filter_congr
  intro entry _
  by_cases same : entry.1 = other
  · simp [same, ne]
  · simp [same]

theorem get?_erase_of_ne (fields : Fields) {key other : String} (ne : other ≠ key) :
    (fields.erase key).get? other = fields.get? other := by
  rw [← get?_under, under_erase_of_ne fields ne, get?_under]

theorem has_erase_of_ne (fields : Fields) {key other : String} (ne : other ≠ key) :
    (fields.erase key).has other = fields.has other :=
  congrArg Option.isSome (get?_erase_of_ne fields ne)

theorem mem_erase {fields : Fields} {key : String} {entry : String × Value} :
    entry ∈ fields.erase key ↔ entry ∈ fields ∧ entry.1 ≠ key := by
  simp [erase, List.mem_filter]

theorem erase_of_absent {fields : Fields} {key : String} (absent : fields.has key = false) :
    fields.erase key = fields := by
  refine List.filter_eq_self.mpr fun entry member => ?_
  simpa using has_eq_false_iff.mp absent entry member

/-- What is set at a key that was absent goes again with the key. -/
theorem erase_set_of_absent {fields : Fields} {key : String} (absent : fields.has key = false)
    (value : Value) : (fields.set key value).erase key = fields := by
  have last : erase [(key, value)] key = [] := by simp [erase]
  rw [set_of_absent absent, erase, List.filter_append]
  change fields.erase key ++ erase [(key, value)] key = fields
  rw [last, erase_of_absent absent, List.append_nil]

/-- Setting and leaving out under different keys are independent of each other. -/
theorem erase_set_of_ne (fields : Fields) {key other : String} (value : Value)
    (ne : key ≠ other) : (fields.set key value).erase other = (fields.erase other).set key value :=
  (keeping_set (· != other) fields key value).trans (if_pos (by simpa using ne))

theorem has_erase_of_absent {fields : Fields} {name : String} (absent : fields.has name = false)
    (key : String) : (fields.erase key).has name = false :=
  has_eq_false_iff.mpr fun entry member =>
    has_eq_false_iff.mp absent entry (mem_erase.mp member).1

theorem get?_erase_self (fields : Fields) (key : String) : (fields.erase key).get? key = none :=
  get?_eq_none_iff.mpr fun _ member => (mem_erase.mp member).2

theorem under_setDefault_of_ne (fields : Fields) {key other : String} (value : Value)
    (ne : other ≠ key) : (fields.setDefault key value).under other = fields.under other := by
  rw [setDefault]
  split
  · rfl
  · exact under_set_of_ne fields value ne

theorem get?_setDefault_self (fields : Fields) (key : String) (value : Value) :
    (fields.setDefault key value).get? key = some ((fields.get? key).getD value) := by
  rw [setDefault, has]
  cases found : fields.lookup key with
  | none => simp [get?, found, ← get?_set_self fields key value]
  | some held => simp [get?, found]

end Cartography.Fields
