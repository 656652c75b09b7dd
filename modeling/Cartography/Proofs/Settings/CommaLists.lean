import Cartography.Proofs.Text.Trimmed
import Cartography.Settings.Environment

/-!
# Lists that are written with commas

Reading such a list gives entries: texts with something in them, without a comma and without a blank
at either end. Entries that are written are read again as they were. Blanks beside a comma and items
with nothing in them make no difference to what is read.

## Implementation notes

At a comma the text falls apart into two lists that are read by themselves. All else is proved from
this one equation and from what is read of a text without a comma.
-/

namespace Cartography.Settings

/-- A text that can be an entry of a list with commas. -/
structure IsEntry (item : String) : Prop where
  filled : item ≠ ""
  whole : ',' ∉ item.toList
  trimmed : Text.Trimmed Text.isBlank item.toList

instance (item : String) : Decidable (IsEntry item) :=
  decidable_of_iff (item ≠ "" ∧ ',' ∉ item.toList ∧ Text.Trimmed Text.isBlank item.toList)
    ⟨fun parts => ⟨parts.1, parts.2.1, parts.2.2⟩,
      fun entry => ⟨entry.filled, entry.whole, entry.trimmed⟩⟩

/-- A list is written again with more blanks beside its commas, or with more items that have
nothing in them. -/
inductive Loosens (written : List Char) : List Char → Prop
  | same : Loosens written written
  | blankBefore {front back : List Char} {blank : Char}
      (looser : Loosens written (front ++ ',' :: back)) (isBlank : Text.isBlank blank = true) :
      Loosens written (front ++ blank :: ',' :: back)
  | blankBehind {front back : List Char} {blank : Char}
      (looser : Loosens written (front ++ ',' :: back)) (isBlank : Text.isBlank blank = true) :
      Loosens written (front ++ ',' :: blank :: back)
  | emptyItem {front back : List Char} (looser : Loosens written (front ++ ',' :: back)) :
      Loosens written (front ++ ',' :: ',' :: back)
  | emptyFirst {cs : List Char} (looser : Loosens written cs) : Loosens written (',' :: cs)
  | emptyLast {cs : List Char} (looser : Loosens written cs) : Loosens written (cs ++ [','])

/-! ### Pieces between commas -/

theorem splitCommas_eq (cs : List Char) : splitCommas cs = cs.splitOn ',' := by
  induction cs with
  | nil => rfl
  | cons c rest ih =>
      rw [List.splitOn_cons_eq_if_modifyHead, ← ih]
      by_cases comma : c = ','
      · subst comma
        rfl
      · obtain ⟨piece, others, pieces⟩ := List.exists_cons_of_ne_nil (ih ▸ List.splitOn_ne_nil ',' rest)
        simp [splitCommas, pieces, comma]

/-- What is read between commas, as characters. -/
def items (cs : List Char) : List (List Char) :=
  ((splitCommas cs).map (Text.trim Text.isBlank)).filter (!·.isEmpty)

theorem entries_eq (s : String) : entries s = (items s.toList).map String.ofList := rfl

/-- At a comma a list falls apart into two. -/
theorem items_append (front back : List Char) :
    items (front ++ ',' :: back) = items front ++ items back := by
  rw [items, splitCommas_eq, List.splitOn_append_cons_self]
  simp [items, splitCommas_eq]

theorem items_of_whole {cs : List Char} (whole : ',' ∉ cs) :
    items cs = [Text.trim Text.isBlank cs].filter (!·.isEmpty) := by
  rw [items, splitCommas_eq, List.splitOn_eq_singleton]
  · rfl
  · exact whole

/-- A property holds of all texts if it holds of those without a comma, and of a text behind such a
text and a comma where it holds of the text by itself. -/
theorem comma_induction {P : List Char → Prop} (whole : ∀ cs, ',' ∉ cs → P cs)
    (comma : ∀ front back, ',' ∉ front → P back → P (front ++ ',' :: back)) (cs : List Char) :
    P cs := by
  by_cases listed : ',' ∈ cs
  · obtain ⟨front, back, split, fresh⟩ := List.eq_append_cons_of_mem listed
    have shorter : back.length < cs.length := by
      rw [split, List.length_append, List.length_cons]
      omega
    rw [split]
    exact comma front back fresh (comma_induction whole comma back)
  · exact whole cs listed
termination_by cs.length

/-! ### What is read -/

theorem mem_items_of_whole {cs item : List Char} (whole : ',' ∉ cs) :
    item ∈ items cs ↔ item = Text.trim Text.isBlank cs ∧ item ≠ [] := by
  rw [items_of_whole whole, List.mem_filter, List.mem_singleton]
  simp

/-- What is read has something in it, and neither a comma nor a blank at an end. -/
theorem isEntry_of_mem_items (cs : List Char) :
    ∀ item ∈ items cs, IsEntry (String.ofList item) := by
  have plain (cs : List Char) (whole : ',' ∉ cs) :
      ∀ item ∈ items cs, IsEntry (String.ofList item) := by
    intro item member
    obtain ⟨rfl, filled⟩ := (mem_items_of_whole whole).mp member
    refine ⟨?_, ?_, ?_⟩
    · simpa using filled
    · rw [String.toList_ofList]
      exact fun held => whole ((Text.trim_infix Text.isBlank cs).subset held)
    · rw [String.toList_ofList]
      exact Text.trimmed_trim Text.isBlank cs
  induction cs using comma_induction with
  | whole cs whole => exact plain cs whole
  | comma front back fresh ih =>
      intro item member
      rw [items_append, List.mem_append] at member
      exact member.elim (plain front fresh item) (ih item)

theorem isEntry_of_mem_entries {s item : String} (member : item ∈ entries s) : IsEntry item := by
  obtain ⟨chars, read, rfl⟩ := List.mem_map.mp member
  exact isEntry_of_mem_items s.toList chars read

theorem entries_append (front back : String) :
    entries (front ++ "," ++ back) = entries front ++ entries back := by
  have split : (front ++ "," ++ back).toList = front.toList ++ ',' :: back.toList := by simp
  rw [entries_eq, split, items_append, List.map_append]
  rfl

/-- An entry that is written by itself is read as it was. -/
theorem entries_of_isEntry {item : String} (entry : IsEntry item) : entries item = [item] := by
  have filled : item.toList ≠ [] := by simpa using entry.filled
  rw [entries_eq, items_of_whole entry.whole, Text.trim_of_trimmed entry.trimmed]
  simp [filled]

/-- Entries that are written are read as they were. -/
theorem entries_joined {list : List String} (all : ∀ item ∈ list, IsEntry item) :
    entries (joined list) = list := by
  induction list with
  | nil => rfl
  | cons item rest ih =>
      obtain ⟨entry, others⟩ := List.forall_mem_cons.mp all
      cases rest with
      | nil => exact entries_of_isEntry entry
      | cons next rest =>
          have written : joined (item :: next :: rest) = item ++ "," ++ joined (next :: rest) :=
            String.intercalate_cons_cons
          rw [written, entries_append, entries_of_isEntry entry, ih others]
          rfl

/-! ### Blanks and empty items -/

theorem not_mem_cons_blank {blank : Char} (isBlank : Text.isBlank blank = true) {cs : List Char}
    (whole : ',' ∉ cs) : ',' ∉ blank :: cs := by
  rintro (_ | ⟨_, later⟩)
  · cases isBlank
  · exact whole later

theorem items_cons_blank {blank : Char} (isBlank : Text.isBlank blank = true) (cs : List Char) :
    items (blank :: cs) = items cs := by
  have plain (cs : List Char) (whole : ',' ∉ cs) : items (blank :: cs) = items cs := by
    rw [items_of_whole (not_mem_cons_blank isBlank whole), items_of_whole whole,
      Text.trim_cons isBlank]
  induction cs using comma_induction with
  | whole cs whole => exact plain cs whole
  | comma front back fresh _ =>
      rw [← List.cons_append, items_append, items_append, plain front fresh]

theorem items_concat_blank {blank : Char} (isBlank : Text.isBlank blank = true) (cs : List Char) :
    items (cs ++ [blank]) = items cs := by
  induction cs using comma_induction with
  | whole cs whole =>
      have still : ',' ∉ cs ++ [blank] := by
        rw [List.mem_append, or_comm, ← List.mem_append]
        exact not_mem_cons_blank isBlank whole
      rw [items_of_whole still, items_of_whole whole, Text.trim_concat isBlank]
  | comma front back fresh ih =>
      rw [List.append_assoc, List.cons_append, items_append, items_append, ih]

theorem items_nil : items [] = [] := rfl

/-- Of a list that is written more loosely the same is read. -/
theorem items_of_loosens {cs ds : List Char} (loosens : Loosens cs ds) : items ds = items cs := by
  induction loosens with
  | same => rfl
  | @blankBefore front back blank _ isBlank ih =>
      have split : front ++ blank :: ',' :: back = (front ++ [blank]) ++ ',' :: back := by simp
      rw [← ih, split, items_append, items_append, items_concat_blank isBlank]
  | blankBehind _ isBlank ih =>
      rw [← ih, items_append, items_append, items_cons_blank isBlank]
  | @emptyItem front back _ ih =>
      rw [← ih, items_append, items_append, ← List.nil_append (',' :: back), items_append,
        items_nil, List.nil_append]
  | @emptyFirst cs _ ih =>
      rw [← ih, ← List.nil_append (',' :: cs), items_append, items_nil, List.nil_append]
  | emptyLast _ ih => rw [← ih, items_append, items_nil, List.append_nil]

theorem entries_of_loosens {s t : String} (loosens : Loosens s.toList t.toList) :
    entries t = entries s := by
  rw [entries_eq, entries_eq, items_of_loosens loosens]

end Cartography.Settings
