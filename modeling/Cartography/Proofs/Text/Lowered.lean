import Cartography.Text.Case

/-!
# The end of a text in lower case

The lower case of a character depends on the characters around it, but not that of an ASCII letter.
An end of a text that consists of ASCII characters is therefore brought to lower case by itself.
-/

namespace Cartography.Text

/-- Characters without regard to the case of ASCII letters. -/
def foldAscii (cs : List Char) : List Char := cs.map Char.toLower

/-- Characters of ASCII, with no capital letter among them. -/
def IsSmallAscii (cs : List Char) : Prop := ∀ c ∈ cs, c.toNat < 0x80 ∧ c.toLower = c

instance (cs : List Char) : Decidable (IsSmallAscii cs) :=
  decidable_of_iff (cs.all fun c => decide (c.toNat < 0x80) && c.toLower == c)
    (by simp [IsSmallAscii])

theorem foldAscii_of_small {cs : List Char} (small : IsSmallAscii cs) : foldAscii cs = cs := by
  rw [foldAscii, List.map_congr_left fun c member => (small c member).2, List.map_id']

/-- A character that has an ASCII letter for its small form is one itself. -/
theorem ascii_of_toLower {c : Char} (small : c.toLower.toNat < 0x80) : c.toNat < 0x80 := by
  by_cases ascii : c.toNat < 0x80
  · exact ascii
  · have same : c.toLower = c := dif_neg fun capital =>
      ascii (Nat.lt_of_le_of_lt (show c.toNat ≤ 'Z'.toNat from capital.2) (by decide))
    exact same ▸ small

/-- The lower case of the last characters stands at the end. -/
theorem lowerFrom_append (before front last : List Char) :
    ∃ lowered, lowerFrom before (front ++ last) =
      lowered ++ lowerFrom (front.reverse ++ before) last := by
  induction front generalizing before with
  | nil => exact ⟨[], rfl⟩
  | cons c rest ih =>
      obtain ⟨lowered, same⟩ := ih (c :: before)
      refine ⟨lowerChar before c (rest ++ last) ++ lowered, ?_⟩
      rw [List.cons_append, lowerFrom, same, List.reverse_cons, List.append_assoc,
        List.append_assoc]
      rfl

theorem lowerFrom_ascii (before : List Char) {cs : List Char} (ascii : ∀ c ∈ cs, c.toNat < 0x80) :
    lowerFrom before cs = foldAscii cs := by
  induction cs generalizing before with
  | nil => rfl
  | cons c rest ih =>
      obtain ⟨first, others⟩ := List.forall_mem_cons.mp ascii
      rw [lowerFrom, lowerChar, if_pos first, ih _ others]
      rfl

/-- Where a text ends with small ASCII characters but for the case of its letters, its lower case
ends with them. -/
theorem suffix_lower_of_fold {raw : String} {small : List Char} (ascii : IsSmallAscii small)
    (ends : foldAscii small <:+ foldAscii raw.toList) : small <:+ (lower raw).toList := by
  rw [foldAscii_of_small ascii] at ends
  obtain ⟨front', whole⟩ := ends
  obtain ⟨front, last, split, _, folded⟩ := List.map_eq_append_iff.mp whole.symm
  have inner : ∀ c ∈ last, c.toNat < 0x80 := by
    intro c member
    apply ascii_of_toLower
    exact (ascii c.toLower (folded ▸ List.mem_map_of_mem member)).1
  obtain ⟨lowered, same⟩ := lowerFrom_append [] front last
  rw [lowerFrom_ascii _ inner, show foldAscii last = small from folded, ← split] at same
  rw [lower, String.toList_ofList, same]
  exact List.suffix_append lowered small

end Cartography.Text
